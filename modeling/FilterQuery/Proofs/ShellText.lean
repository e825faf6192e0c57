import FilterQuery.Document.Shell
import FilterQuery.Proofs.PatternTexts

/-!
# Shell text

The first character of a value in shell syntax says of which kind the value is, and each kind shows
where its text ends. Two documents of accepted queries therefore have the same text only if they are
the same but for the part of their dates below the millisecond, which is not written.
-/

namespace FilterQuery

open Text

namespace Shell

/-- The values that can be told from their text: the numbers among them are finite, and the patterns
can stand between slashes. -/
inductive Printable : Value → Prop where
  | boolean {b : Bool} : Printable (.boolean b)
  | number {x : Double} : x.isFinite = true → Printable (.double x)
  | string {s : String} : Printable (.string s)
  | regex {p : Pattern} : p.Delimited → Printable (.regex p)
  | date {t : Instant} : Printable (.date t)
  | objectId {id : ObjectId} : Printable (.objectId id)
  | array {items : List Value} : (∀ v ∈ items, Printable v) → Printable (.array items)
  | document {entries : List (String × Value)} :
      (∀ e ∈ entries, Printable e.2) → Printable (.document entries)

section Kinds

variable {gap : Break} {depth : ℕ} {v w : Value} {r s : List Char}

lemma marked_print (h : Printable v) : Marked (print gap depth v) v.kind := by
  cases h with
  | @boolean b => cases b <;> exact ⟨_, _, rfl, rfl, rfl⟩
  | number hx =>
    rw [print, numberText_of_finite hx]
    exact Double.marked_text hx
  | array => exact marked_array _
  | document => exact marked_object _
  | _ => exact ⟨_, _, rfl, rfl, rfl⟩

lemma kind_eq (hv : Printable v) (hw : Printable w)
    (h : print gap depth v ++ r = print gap depth w ++ s) : v.kind = w.kind :=
  (marked_print hv).kind_eq (marked_print hw) h

end Kinds

/-! ### Keys and calls -/

section Keys

variable {key key' : String} {r s : List Char}

lemma exists_of_isBareKey {cs : List Char} (h : isBareKey cs = true) :
    ∃ c rest, cs = c :: rest ∧ isKeyStart c = true ∧
      ∀ d ∈ cs, (isKeyStart d || d.isDigit) = true := by
  cases cs with
  | nil => cases h
  | cons c rest =>
    rw [isBareKey, Bool.and_eq_true, List.all_eq_true] at h
    refine ⟨c, rest, rfl, h.1, fun d hd => ?_⟩
    obtain rfl | hrest := List.mem_cons.mp hd
    · rw [h.1, Bool.true_or]
    · exact h.2 d hrest

lemma begins_keyText (key : String) (rest : List Char) : Begins (keyText key ++ rest) := by
  unfold keyText
  split_ifs with hbare
  · obtain ⟨c, tail, htext, hc, -⟩ := exists_of_isBareKey hbare
    refine ⟨c, tail ++ rest, by rw [htext]; rfl, isDelimiter_eq_false ?_ hc⟩
    intro d hd
    obtain rfl | rfl | rfl | rfl | rfl := isDelimiter_iff.mp hd <;> decide
  · exact ⟨'"', _, rfl, rfl⟩

/-- A bare key does not look like a quoted one. -/
lemma bareKey_ne_quoted (h : isBareKey key.toList = true) (cs : List Char) :
    key.toList ++ r ≠ quoted cs ++ s := by
  obtain ⟨c, rest, htext, hc, -⟩ := exists_of_isBareKey h
  intro heq
  rw [htext] at heq
  cases (List.cons.inj heq).1
  exact absurd hc (by decide)

/-- A key ends in front of the colon, unless the colon is within quotes. -/
lemma keyText_append_inj (h : keyText key ++ ':' :: r = keyText key' ++ ':' :: s) :
    key = key' ∧ r = s := by
  have hcolon (rest : List Char) :
      ∀ c ∈ (':' :: rest).head?, (isKeyStart c || c.isDigit) = false := by
    rintro c ⟨⟩
    decide
  unfold keyText at h
  split_ifs at h with hbare hbare' hbare'
  · obtain ⟨-, -, -, -, hkey⟩ := exists_of_isBareKey hbare
    obtain ⟨-, -, -, -, hkey'⟩ := exists_of_isBareKey hbare'
    obtain ⟨htext, hrest⟩ := run_append_inj hkey hkey' (hcolon r) (hcolon s) h
    exact ⟨String.toList_inj.mp htext, List.tail_eq_of_cons_eq hrest⟩
  · exact absurd h (bareKey_ne_quoted hbare _)
  · exact absurd h.symm (bareKey_ne_quoted hbare' _)
  · obtain ⟨htext, hrest⟩ := quoted_append_inj h
    exact ⟨String.toList_inj.mp htext, List.tail_eq_of_cons_eq hrest⟩

lemma call_append_inj {name : String} {cs ds : List Char} (hcs : '"' ∉ cs) (hds : '"' ∉ ds)
    (h : call name cs ++ r = call name ds ++ s) : cs = ds ∧ r = s := by
  simp only [call, List.append_assoc, List.cons_append, List.nil_append,
    List.append_cancel_left_eq, List.cons.injEq, true_and] at h
  obtain ⟨htext, hrest⟩ := quote_append_inj hcs hds h
  exact ⟨htext, List.tail_eq_of_cons_eq hrest⟩

end Keys

/-! ### Values -/

section Values

variable (gap : Break) (depth : ℕ)

lemma printItems_eq (items : List Value) :
    printItems gap depth items = items.map (print gap depth) := by
  induction items with
  | nil => rfl
  | cons v rest ih => rw [printItems, ih, List.map_cons]

def printEntry (e : String × Value) : List Char :=
  keyText e.1 ++ ':' :: ' ' :: print gap depth e.2

lemma printEntries_eq (entries : List (String × Value)) :
    printEntries gap depth entries = entries.map (printEntry gap depth) := by
  induction entries with
  | nil => rfl
  | cons e rest ih =>
    rw [printEntries, ih, List.map_cons]
    rfl

/-- What a text keeps of a value. -/
abbrev kept : Value → Value :=
  Value.mapLeaves id Instant.toMillis

variable {gap depth}

lemma determines_entry {e f : String × Value}
    (h : Determines (print gap depth) kept e.2 f.2) :
    Determines (printEntry gap depth) (fun e => (e.1, kept e.2)) e f := by
  intro r s hr hs heq
  simp only [printEntry, List.append_assoc, List.cons_append] at heq
  obtain ⟨hkey, hrest⟩ := keyText_append_inj heq
  obtain ⟨hvalue, hend⟩ := h r s hr hs (List.tail_eq_of_cons_eq hrest)
  exact ⟨Prod.ext hkey hvalue, hend⟩

/-- By induction on the value, its text shows where it ends and what the value is: two texts that
begin alike are of values of one kind, and each kind has its own way to end. -/
theorem print_determines (hgap : gap.Blank) {v w : Value} (hv : Printable v) (hw : Printable w) :
    Determines (print gap depth) kept v w := by
  induction hv generalizing w depth with
  | @boolean b =>
    intro r s _ _ heq
    have hkind := kind_eq .boolean hw heq
    cases w with
    | boolean b' =>
      cases b <;> cases b' <;> cases heq <;> exact ⟨rfl, rfl⟩
    | _ => cases hkind
  | @number x hx =>
    intro r s hr hs heq
    have hkind := kind_eq (.number hx) hw heq
    cases hw with
    | @number y hy =>
      simp only [print, numberText_of_finite hx, numberText_of_finite hy] at heq
      obtain ⟨rfl, hend⟩ := Double.text_append_inj hx hy hr hs heq
      exact ⟨rfl, hend⟩
    | _ => cases hkind
  | @string t =>
    intro r s _ _ heq
    have hkind := kind_eq .string hw heq
    cases w with
    | string u =>
      obtain ⟨htext, hend⟩ := quoted_append_inj heq
      rw [String.toList_inj.mp htext]
      exact ⟨rfl, hend⟩
    | _ => cases hkind
  | @regex p hp =>
    intro r s hr hs heq
    have hkind := kind_eq (.regex hp) hw heq
    have hflag {rest : List Char} (hrest : Delimits rest) : rest.head? ≠ some 'i' :=
      fun hhead => absurd (hrest 'i' hhead) (by decide)
    cases hw with
    | regex hq =>
      obtain ⟨rfl, hend⟩ := Pattern.text_append_inj hp hq (hflag hr) (hflag hs) heq
      exact ⟨rfl, hend⟩
    | _ => cases hkind
  | @date t =>
    intro r s _ _ heq
    have hkind := kind_eq .date hw heq
    cases w with
    | date u =>
      obtain ⟨htext, hend⟩ := call_append_inj t.quote_not_mem_text u.quote_not_mem_text heq
      exact ⟨congrArg Value.date (Instant.toMillis_eq_of_text htext), hend⟩
    | _ => cases hkind
  | @objectId id =>
    intro r s _ _ heq
    have hkind := kind_eq .objectId hw heq
    cases w with
    | objectId id' =>
      obtain ⟨htext, hend⟩ := call_append_inj id.quote_not_mem_hexChars
        id'.quote_not_mem_hexChars heq
      rw [ObjectId.hexChars_injective htext]
      exact ⟨rfl, hend⟩
    | _ => cases hkind
  | @array items hitems ih =>
    intro r s _ _ heq
    have hkind := kind_eq (.array hitems) hw heq
    cases hw with
    | @array items' hitems' =>
      simp only [print, printItems_eq] at heq
      obtain ⟨hkept, hend⟩ := enclose_append_inj hgap (.inl rfl)
        (fun v hv => (marked_print (hitems v hv)).begins)
        (fun v hv => (marked_print (hitems' v hv)).begins)
        (fun v hv v' hv' => ih v hv (hitems' v' hv')) heq
      simp only [kept, Value.mapLeaves, Value.mapItems_eq]
      exact ⟨congrArg Value.array hkept, hend⟩
    | _ => cases hkind
  | @document entries hentries ih =>
    intro r s _ _ heq
    have hkind := kind_eq (.document hentries) hw heq
    cases hw with
    | @document entries' hentries' =>
      simp only [print, printEntries_eq] at heq
      obtain ⟨hkept, hend⟩ := enclose_append_inj hgap (.inr rfl)
        (fun e _ => begins_keyText e.1 _) (fun e _ => begins_keyText e.1 _)
        (fun e he e' he' => determines_entry (ih e he (hentries' e' he'))) heq
      simp only [kept, Value.mapLeaves, Value.mapEntries_eq]
      exact ⟨congrArg Value.document hkept, hend⟩
    | _ => cases hkind

end Values

/-! ### Documents of queries -/

lemma printable_ofLiteral {value : Literal} (h : value.Readable) :
    Printable (.ofLiteral value) := by
  cases value with
  | boolean b => exact .boolean
  | number x => exact .number h.finite
  | string s => exact .string
  | regex p => exact .regex (Pattern.delimited_of_readable h)
  | date t => exact .date
  | objectId id => exact .objectId

lemma printable_pair {v w : Value} (hv : Printable v) (hw : Printable w) :
    Printable (.array [v, w]) := by
  apply Printable.array
  intro u hu
  obtain rfl | rfl := List.mem_pair.mp hu
  · exact hv
  · exact hw

lemma printable_single {v : Value} (h : Printable v) (key : String) :
    Printable (Document.single key v).toValue := by
  apply Printable.document
  intro e he
  rw [List.mem_singleton.mp he]
  exact h

/-- By induction on the tree, the document of a query can be told from its text. -/
lemma printable_toDocument {q : Query} (h : q.Proper Literal.Readable) :
    Printable q.toDocument.toValue := by
  induction h with
  | join _ _ ihl ihr => exact printable_single (printable_pair ihl ihr) _
  | @field name value comparator _ hvalue =>
    cases comparator with
    | none => exact printable_single (printable_ofLiteral hvalue) _
    | some c => exact printable_single (printable_single (printable_ofLiteral hvalue) _) _
  | @variableMatch name p _ hvalue =>
    have hentries : ∀ e ∈ [("input", Value.string ("$$" ++ name)), ("regex", Value.regex p)],
        Printable e.2 := by
      intro e he
      obtain rfl | rfl := List.mem_pair.mp he
      · exact .string
      · exact .regex (Pattern.delimited_of_readable hvalue)
    exact printable_single (.document hentries) _
  | variableCompare _ hvalue _ =>
    exact printable_single (printable_pair .string (printable_ofLiteral hvalue)) _

lemma printable_of_ofText {text : String} {d : Document} (h : Document.ofText text = .ok d) :
    Printable d.toValue := by
  obtain ⟨q, hq, rfl⟩ := Document.exists_query_of_ofText h
  exact printable_toDocument hq

/-- If the documents of two accepted queries have the same text in shell syntax, on one line or on
many, then they are equal when the part of each date below the millisecond is dropped. -/
theorem mapLeaves_eq_of_text {p q : String} {d e : Document} (hp : Document.ofText p = .ok d)
    (hq : Document.ofText q = .ok e) (h : compact d = compact e ∨ pretty d = pretty e) :
    d.mapLeaves id Instant.toMillis = e.mapLeaves id Instant.toMillis := by
  have hd := printable_of_ofText hp
  have he := printable_of_ofText hq
  apply Document.mapLeaves_inj
  cases h with
  | inl hcompact => exact (print_determines Break.blank_space hd he).kept_eq hcompact
  | inr hpretty => exact (print_determines Break.blank_line hd he).kept_eq hpretty

/-- Two dates in the same millisecond. -/
theorem mapLeaves_eq_of_text_millisecond :
    ∃ d e, Document.ofText "at > '2024-05-01T10:20:30.0005Z'" = .ok d ∧
      Document.ofText "at > '2024-05-01T10:20:30.0009Z'" = .ok e ∧ compact d = compact e ∧
      d.mapLeaves id Instant.toMillis = e.mapLeaves id Instant.toMillis := by
  have hp : Query.parse "at > '2024-05-01T10:20:30.0005Z'" =
      .ok (.field "at" (.date ⟨1714558830, 500000, by decide⟩) (some .gt)) := by
    decide +kernel
  have hq : Query.parse "at > '2024-05-01T10:20:30.0009Z'" =
      .ok (.field "at" (.date ⟨1714558830, 900000, by decide⟩) (some .gt)) := by
    decide +kernel
  have hd := congrArg (Except.map Query.toDocument) hp
  have he := congrArg (Except.map Query.toDocument) hq
  have htext : compact (Query.field "at" (.date ⟨1714558830, 500000, by decide⟩)
        (some .gt)).toDocument =
      compact (Query.field "at" (.date ⟨1714558830, 900000, by decide⟩) (some .gt)).toDocument := by
    decide +kernel
  exact ⟨_, _, hd, he, htext, mapLeaves_eq_of_text hd he (.inl htext)⟩

end Shell

end FilterQuery
