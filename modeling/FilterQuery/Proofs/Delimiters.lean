import FilterQuery.Proofs.WrittenLiterals
import FilterQuery.Text.Layout

/-!
# Where texts end

The text of a value is followed by a delimiter, or by nothing. Texts that are made of other
characters, strings in quotes, and lists in brackets can then be told from what follows them: if two
of them agree together with what follows, then they agree by themselves.
-/

namespace FilterQuery.Text

def isDelimiter (c : Char) : Bool :=
  c == ',' || c == ' ' || c == '\n' || c == ']' || c == '\x7d'

/-- What can come after the text of a value. -/
def Delimits (rest : List Char) : Prop :=
  ∀ c ∈ rest.head?, isDelimiter c = true

lemma delimits_nil : Delimits [] := fun _ hc => nomatch hc

lemma delimits_cons {c : Char} (hc : isDelimiter c = true) (rest : List Char) :
    Delimits (c :: rest) := by
  rintro d ⟨⟩
  exact hc

/-- The characters of written numbers. -/
def isNumeralChar (c : Char) : Bool :=
  c.isDigit || c == '.' || c == '-' || c == '+' || c == 'e'

lemma isNumeralChar_of_isDigit {c : Char} (hc : c.isDigit = true) : isNumeralChar c = true := by
  rw [isNumeralChar, hc]
  rfl

lemma isDelimiter_iff {c : Char} :
    isDelimiter c = true ↔ c = ',' ∨ c = ' ' ∨ c = '\n' ∨ c = ']' ∨ c = '\x7d' := by
  simp [isDelimiter, or_assoc]

lemma isDelimiter_eq_false {p : Char → Bool} {c : Char}
    (hp : ∀ d, isDelimiter d = true → p d = false) (hc : p c = true) : isDelimiter c = false := by
  rw [← Bool.not_eq_true]
  intro hdelimiter
  rw [hp c hdelimiter] at hc
  cases hc

lemma isNumeralChar_of_isDelimiter (c : Char) (hc : isDelimiter c = true) :
    isNumeralChar c = false := by
  obtain rfl | rfl | rfl | rfl | rfl := isDelimiter_iff.mp hc <;> decide

section Runs

variable {p : Char → Bool} {cs ds r s : List Char}

lemma run_append_inj (hcs : ∀ c ∈ cs, p c = true) (hds : ∀ c ∈ ds, p c = true)
    (hr : ∀ c ∈ r.head?, p c = false) (hs : ∀ c ∈ s.head?, p c = false)
    (h : cs ++ r = ds ++ s) : cs = ds ∧ r = s := by
  have hrun := run_append hcs hr
  rw [h, run_append hds hs, Prod.mk.injEq] at hrun
  exact ⟨hrun.1.symm, hrun.2.symm⟩

/-- A written number ends in front of the first character that no number has. -/
lemma numeral_append_inj (hcs : ∀ c ∈ cs, isNumeralChar c = true)
    (hds : ∀ c ∈ ds, isNumeralChar c = true) (hr : Delimits r) (hs : Delimits s)
    (h : cs ++ r = ds ++ s) : cs = ds ∧ r = s :=
  run_append_inj hcs hds (fun c hc => isNumeralChar_of_isDelimiter c (hr c hc))
    (fun c hc => isNumeralChar_of_isDelimiter c (hs c hc)) h

/-- A text ends in front of the first quote. -/
lemma quote_append_inj (hcs : '"' ∉ cs) (hds : '"' ∉ ds) (h : cs ++ '"' :: r = ds ++ '"' :: s) :
    cs = ds ∧ r = s := by
  have hquote (text : List Char) : ∀ c ∈ ('"' :: text).head?, (c != '"') = false := by
    rintro c ⟨⟩
    rfl
  have hne {text : List Char} (htext : '"' ∉ text) : ∀ c ∈ text, (c != '"') = true :=
    fun c hc => bne_iff_ne.mpr (ne_of_mem_of_not_mem hc htext)
  obtain ⟨htext, hrest⟩ := run_append_inj (hne hcs) (hne hds) (hquote r) (hquote s) h
  exact ⟨htext, List.tail_eq_of_cons_eq hrest⟩

end Runs

/-! ### Strings -/

/-- The character that stands escaped at the head of a text, and what follows it. -/
def readEscaped : List Char → Option (Char × List Char)
  | '\\' :: 'b' :: rest => some ('\x08', rest)
  | '\\' :: 't' :: rest => some ('\t', rest)
  | '\\' :: 'n' :: rest => some ('\n', rest)
  | '\\' :: 'f' :: rest => some ('\x0c', rest)
  | '\\' :: 'r' :: rest => some ('\r', rest)
  | '\\' :: 'u' :: _ :: _ :: high :: low :: rest =>
    some (Char.ofNat (16 * ObjectId.hexValue high + ObjectId.hexValue low), rest)
  | '\\' :: c :: rest => some (c, rest)
  | c :: rest => some (c, rest)
  | [] => none

lemma readEscaped_append (c : Char) (rest : List Char) :
    readEscaped (escapeChar c ++ rest) = some (c, rest) := by
  by_cases hquote : c = '"'
  · rw [hquote]
    rfl
  by_cases hbackslash : c = '\\'
  · rw [hbackslash]
    rfl
  by_cases hb : c = '\x08'
  · rw [hb]
    rfl
  by_cases ht : c = '\t'
  · rw [ht]
    rfl
  by_cases hn : c = '\n'
  · rw [hn]
    rfl
  by_cases hf : c = '\x0c'
  · rw [hf]
    rfl
  by_cases hr : c = '\r'
  · rw [hr]
    rfl
  rw [escapeChar, if_neg hquote, if_neg hbackslash, if_neg hb, if_neg ht, if_neg hn, if_neg hf,
    if_neg hr]
  by_cases hcontrol : c.toNat < 0x20
  · have hvalue : 16 * ObjectId.hexValue (hexDigit (c.toNat / 16)) +
        ObjectId.hexValue (hexDigit (c.toNat % 16)) = c.toNat := by
      rw [ObjectId.hexValue_hexDigit (by omega), ObjectId.hexValue_hexDigit (by omega)]
      omega
    rw [if_pos hcontrol]
    simp only [List.cons_append, List.nil_append, readEscaped, hvalue, Char.ofNat_toNat]
  · rw [if_neg hcontrol, List.singleton_append, readEscaped]
    all_goals
      intros
      contradiction

lemma escapeChar_append_inj {c d : Char} {r s : List Char}
    (h : escapeChar c ++ r = escapeChar d ++ s) : c = d ∧ r = s := by
  have hread := readEscaped_append c r
  rw [h, readEscaped_append, Option.some.injEq, Prod.mk.injEq] at hread
  exact ⟨hread.1.symm, hread.2.symm⟩

/-- A quote at the head of a text would be read as a quote, which is never left unescaped. -/
lemma head_escapeChar (c : Char) (rest : List Char) :
    (escapeChar c ++ rest).head? ≠ some '"' := by
  intro hhead
  obtain ⟨tail, htail⟩ := List.head?_eq_some_iff.mp hhead
  have hread := readEscaped_append c rest
  rw [htail, show readEscaped ('"' :: tail) = some ('"', tail) from rfl, Option.some.injEq,
    Prod.mk.injEq] at hread
  rw [← hread.1] at htail
  cases htail

lemma escaped_append_inj {cs ds r s : List Char}
    (h : cs.flatMap escapeChar ++ '"' :: r = ds.flatMap escapeChar ++ '"' :: s) :
    cs = ds ∧ r = s := by
  induction cs generalizing ds with
  | nil =>
    cases ds with
    | nil => exact ⟨rfl, List.tail_eq_of_cons_eq h⟩
    | cons d ds =>
      rw [List.flatMap_cons, List.append_assoc] at h
      exact absurd (congrArg List.head? h).symm (head_escapeChar d _)
  | cons c cs ih =>
    rw [List.flatMap_cons, List.append_assoc] at h
    cases ds with
    | nil => exact absurd (congrArg List.head? h) (head_escapeChar c _)
    | cons d ds =>
      rw [List.flatMap_cons, List.append_assoc] at h
      obtain ⟨rfl, hrest⟩ := escapeChar_append_inj h
      obtain ⟨rfl, hend⟩ := ih hrest
      exact ⟨rfl, hend⟩

/-- The quote that ends a string is the first one that is not escaped. -/
lemma quoted_append_inj {cs ds r s : List Char} (h : quoted cs ++ r = quoted ds ++ s) :
    cs = ds ∧ r = s := by
  apply escaped_append_inj
  simpa [quoted] using h

/-! ### Kinds -/

/-- The kinds of values, in JSON and in shell syntax. -/
inductive Kind where
  | null
  | boolean
  | number
  | string
  | regex
  | date
  | objectId
  | array
  | object

/-- The kind of the values whose text begins with a character. -/
def Kind.ofHead (c : Char) : Kind :=
  if c = '"' then string
  else if c = '/' then regex
  else if c = 'I' then date
  else if c = 'O' then objectId
  else if c = '[' then array
  else if c = '\x7b' then object
  else if c = 'n' then null
  else if c = 't' ∨ c = 'f' then boolean
  else number

lemma Kind.ofHead_numeral {c : Char} (hc : isNumeralChar c = true) : ofHead c = number := by
  have hne {d : Char} (hd : isNumeralChar d = false) : c ≠ d := by
    rintro rfl
    exact absurd hc (by rw [hd]; decide)
  rw [ofHead, if_neg (hne rfl), if_neg (hne rfl), if_neg (hne rfl), if_neg (hne rfl),
    if_neg (hne rfl), if_neg (hne rfl), if_neg (hne rfl), if_neg (not_or.mpr ⟨hne rfl, hne rfl⟩)]

/-- A text that does not begin with a delimiter. -/
def Begins (cs : List Char) : Prop :=
  ∃ c rest, cs = c :: rest ∧ isDelimiter c = false

/-- A text that begins with the mark of a kind. -/
def Marked (cs : List Char) (kind : Kind) : Prop :=
  ∃ c rest, cs = c :: rest ∧ isDelimiter c = false ∧ Kind.ofHead c = kind

section Marked

variable {cs ds r s : List Char} {kind kind' : Kind}

lemma Marked.begins (h : Marked cs kind) : Begins cs := by
  obtain ⟨c, rest, htext, hc, -⟩ := h
  exact ⟨c, rest, htext, hc⟩

lemma Marked.kind_eq (h : Marked cs kind) (h' : Marked ds kind') (heq : cs ++ r = ds ++ s) :
    kind = kind' := by
  obtain ⟨c, rest, rfl, -, hkind⟩ := h
  obtain ⟨d, rest', rfl, -, hkind'⟩ := h'
  rw [← hkind, ← hkind', (List.cons.inj heq).1]

lemma marked_numeral (hne : cs ≠ []) (hcs : ∀ c ∈ cs, isNumeralChar c = true) :
    Marked cs .number := by
  obtain ⟨c, rest, rfl⟩ := List.exists_cons_of_ne_nil hne
  have hc := hcs c List.mem_cons_self
  exact ⟨c, rest, rfl, isDelimiter_eq_false isNumeralChar_of_isDelimiter hc, Kind.ofHead_numeral hc⟩

end Marked

/-! ### Brackets -/

/-- The texts of `a` and `b` show where they end, and agree only if what is kept of `a` and `b`
does. -/
def Determines {α β : Type} (text : α → List Char) (kept : α → β) (a b : α) : Prop :=
  ∀ r s, Delimits r → Delimits s → text a ++ r = text b ++ s → kept a = kept b ∧ r = s

lemma Determines.kept_eq {α β : Type} {text : α → List Char} {kept : α → β} {a b : α}
    (h : Determines text kept a b) (heq : String.ofList (text a) = String.ofList (text b)) :
    kept a = kept b := by
  have htext : text a ++ [] = text b ++ [] := congrArg (· ++ []) (String.ofList_inj.mp heq)
  exact (h [] [] delimits_nil delimits_nil htext).1

/-- Every break begins with white space, if it is not empty. -/
def Break.Blank (gap : Break) : Prop :=
  ∀ depth, ∀ c ∈ (gap depth).head?, c = ' ' ∨ c = '\n'

lemma Break.blank_none : Break.none.Blank := by
  rintro depth c ⟨⟩

lemma Break.blank_space : Break.space.Blank := by
  rintro depth c ⟨⟩
  exact .inl rfl

lemma Break.blank_line : Break.line.Blank := by
  rintro depth c ⟨⟩
  exact .inr rfl

section Brackets

variable {α β : Type} {text : α → List Char} {kept : α → β} {gap : List Char} {xs ys : List α}
  {r s : List Char}

/-- By induction on the first list: after each item comes either a comma in both texts, or what
follows the last item. -/
lemma commaSeparated_append_inj {a b : α}
    (h : ∀ x ∈ a :: xs, ∀ y ∈ b :: ys, Determines text kept x y)
    (hr : Delimits r) (hs : Delimits s) (hcr : r.head? ≠ some ',') (hcs : s.head? ≠ some ',')
    (heq : commaSeparated gap ((a :: xs).map text) ++ r =
      commaSeparated gap ((b :: ys).map text) ++ s) :
    (a :: xs).map kept = (b :: ys).map kept ∧ r = s := by
  have hhead := h a List.mem_cons_self b List.mem_cons_self
  have hcomma : ∀ rest : List Char, Delimits (',' :: rest) := delimits_cons rfl
  induction xs generalizing a b ys with
  | nil =>
    cases ys with
    | nil =>
      obtain ⟨hkept, hrest⟩ := hhead r s hr hs heq
      exact ⟨congrArg (fun k => [k]) hkept, hrest⟩
    | cons b' ys =>
      simp only [List.map_cons, List.map_nil, commaSeparated, List.append_assoc,
        List.cons_append] at heq
      obtain ⟨-, rfl⟩ := hhead _ _ hr (hcomma _) heq
      exact absurd rfl hcr
  | cons a' xs ih =>
    cases ys with
    | nil =>
      simp only [List.map_cons, List.map_nil, commaSeparated, List.append_assoc,
        List.cons_append] at heq
      obtain ⟨-, rfl⟩ := hhead _ _ (hcomma _) hs heq
      exact absurd rfl hcs
    | cons b' ys =>
      simp only [List.map_cons, commaSeparated, List.append_assoc, List.cons_append] at heq
      obtain ⟨hkept, htail⟩ := hhead _ _ (hcomma _) (hcomma _) heq
      rw [List.cons.injEq, List.append_cancel_left_eq] at htail
      have hinner : ∀ x ∈ a' :: xs, ∀ y ∈ b' :: ys, Determines text kept x y :=
        fun x hx y hy => h x (List.mem_cons_of_mem a hx) y (List.mem_cons_of_mem b hy)
      obtain ⟨hrest, hend⟩ := ih hinner htail.2 (hinner a' List.mem_cons_self b' List.mem_cons_self)
      exact ⟨congrArg₂ List.cons hkept hrest, hend⟩

variable {gap : Break} {opening closing : Char} {depth : Nat}

lemma marked_array (items : List (List Char)) :
    Marked (enclose '[' ']' gap depth items) .array := by
  cases items <;> exact ⟨_, _, rfl, rfl, rfl⟩

lemma marked_object (items : List (List Char)) :
    Marked (enclose '\x7b' '\x7d' gap depth items) .object := by
  cases items <;> exact ⟨_, _, rfl, rfl, rfl⟩

lemma enclose_cons (a : α) (xs : List α) :
    enclose opening closing gap depth ((a :: xs).map text) ++ r =
      opening :: (gap (depth + 1) ++ (commaSeparated (gap (depth + 1)) ((a :: xs).map text) ++
        (gap depth ++ closing :: r))) := by
  simp [enclose]

lemma head_commaSeparated {a : α} (ha : Begins (text a)) (xs : List α) (rest : List Char) :
    ∃ c tail, commaSeparated (gap (depth + 1)) ((a :: xs).map text) ++ rest = c :: tail ∧
      isDelimiter c = false := by
  obtain ⟨c, tail, htext, hc⟩ := ha
  cases xs with
  | nil => exact ⟨c, tail ++ rest, by simp [commaSeparated, htext], hc⟩
  | cons b xs => exact ⟨c, _, by simp [commaSeparated, htext]; rfl, hc⟩

/-- Brackets with nothing in them are not the beginning of others. -/
lemma closing_cons_ne (hgap : gap.Blank) (hclosing : closing = ']' ∨ closing = '\x7d') {b : α}
    (hb : Begins (text b)) (rest : List Char) :
    closing :: r ≠ gap (depth + 1) ++ (commaSeparated (gap (depth + 1)) ((b :: ys).map text) ++
      rest) := by
  intro heq
  obtain ⟨c, tail, hitems, hc⟩ := head_commaSeparated hb ys rest
  rw [hitems] at heq
  have hhead := congrArg List.head? heq
  cases hbreak : gap (depth + 1) with
  | nil =>
    rw [hbreak] at hhead
    cases hhead
    obtain rfl | rfl := hclosing <;> exact absurd hc (by decide)
  | cons d ds =>
    have hd := hgap (depth + 1) d (by rw [hbreak]; rfl)
    rw [hbreak] at hhead
    cases hhead
    obtain rfl | rfl := hclosing <;> exact absurd hd (by decide)

lemma delimits_closing (hgap : gap.Blank) (hclosing : closing = ']' ∨ closing = '\x7d') :
    Delimits (gap depth ++ closing :: r) ∧ (gap depth ++ closing :: r).head? ≠ some ',' := by
  cases hbreak : gap depth with
  | nil => obtain rfl | rfl := hclosing <;> exact ⟨delimits_cons rfl _, by simp⟩
  | cons d ds =>
    have hd := hgap depth d (by rw [hbreak]; rfl)
    obtain rfl | rfl := hd <;> exact ⟨delimits_cons rfl _, by simp⟩

/-- Lists in brackets show where they end, if their items do. -/
theorem enclose_append_inj (hgap : gap.Blank) (hclosing : closing = ']' ∨ closing = '\x7d')
    (hxs : ∀ a ∈ xs, Begins (text a)) (hys : ∀ b ∈ ys, Begins (text b))
    (h : ∀ x ∈ xs, ∀ y ∈ ys, Determines text kept x y)
    (heq : enclose opening closing gap depth (xs.map text) ++ r =
      enclose opening closing gap depth (ys.map text) ++ s) :
    xs.map kept = ys.map kept ∧ r = s := by
  cases xs with
  | nil =>
    cases ys with
    | nil =>
      simp only [List.map_nil, enclose, List.cons_append, List.nil_append, List.cons.injEq,
        true_and] at heq
      exact ⟨rfl, heq⟩
    | cons b ys =>
      rw [enclose_cons] at heq
      exact absurd (List.tail_eq_of_cons_eq heq)
        (closing_cons_ne hgap hclosing (hys b List.mem_cons_self) _)
  | cons a xs =>
    rw [enclose_cons] at heq
    cases ys with
    | nil =>
      exact absurd (List.tail_eq_of_cons_eq heq).symm
        (closing_cons_ne hgap hclosing (hxs a List.mem_cons_self) _)
    | cons b ys =>
      rw [enclose_cons, List.cons.injEq, List.append_cancel_left_eq] at heq
      obtain ⟨hdr, hcr⟩ := delimits_closing (r := r) hgap hclosing
      obtain ⟨hds, hcs⟩ := delimits_closing (r := s) hgap hclosing
      obtain ⟨hkept, hend⟩ := commaSeparated_append_inj h hdr hds hcr hcs heq.2
      rw [List.append_cancel_left_eq, List.cons.injEq] at hend
      exact ⟨hkept, hend.2⟩

end Brackets

end FilterQuery.Text
