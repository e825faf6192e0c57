import FilterQuery.Document.Basic
import FilterQuery.Proofs.Delimiters

/-!
# The texts of leaves

The text of an instant determines it up to the part below the millisecond, for all years, the digits
of an identifier determine its bytes, and the text of a finite number determines the number. What a
text keeps of a document is the document with other leaves.
-/

namespace FilterQuery

open Text (paddedDigits)

namespace Instant

/-- What stands in front of the digits of a year. -/
def yearSign (y : Int) : List Char :=
  if 0 ≤ y ∧ y ≤ 9999 then [] else if y < 0 then ['-'] else ['+']

section Parts

variable {r s : List Char} {c d : Char}

lemma paddedDigits_append_inj {width n m : Nat} (hc : c.isDigit = false) (hd : d.isDigit = false)
    (h : paddedDigits width n ++ c :: r = paddedDigits width m ++ d :: s) :
    n = m ∧ c :: r = d :: s := by
  have hrun := run_paddedDigits r width n hc
  rw [h, run_paddedDigits s width m hd, Prod.mk.injEq] at hrun
  refine ⟨?_, hrun.2.symm⟩
  rw [← Text.digitsValue_paddedDigits width n, ← hrun.1, Text.digitsValue_paddedDigits]

lemma yearText_eq (y : Int) : yearText y = yearSign y ++ paddedDigits 4 y.natAbs := by
  unfold yearText yearSign
  split_ifs with hplain
  · rw [List.nil_append, show y.toNat = y.natAbs by omega]
  · rfl
  · rfl

lemma minus_mem_yearSign (y : Int) : '-' ∈ yearSign y ↔ y < 0 := by
  unfold yearSign
  split_ifs with hplain hnegative
  · simp only [List.not_mem_nil, false_iff]
    omega
  · simp [hnegative]
  · simp [hnegative]

lemma mem_yearSign {y : Int} (hc : c ∈ yearSign y) : (!c.isDigit) = true := by
  unfold yearSign at hc
  split_ifs at hc
  · cases hc
  · rw [List.mem_singleton.mp hc]
    decide
  · rw [List.mem_singleton.mp hc]
    decide

/-- The sign and the digits of a year, up to the first character that is neither. -/
lemma yearText_append_inj {y z : Int} (hc : c.isDigit = false) (hd : d.isDigit = false)
    (h : yearText y ++ c :: r = yearText z ++ d :: s) : y = z ∧ c :: r = d :: s := by
  have hdigits (n : Nat) (rest : List Char) :
      ∀ e ∈ (paddedDigits 4 n ++ rest).head?, (!e.isDigit) = false := by
    intro e he
    have hne : paddedDigits 4 n ≠ [] := by
      have := Text.length_paddedDigits 4 n
      exact List.ne_nil_of_length_pos (by omega)
    rw [List.head?_append_of_ne_nil _ hne] at he
    rw [Text.isDigit_of_mem_paddedDigits 4 n e (List.mem_of_mem_head? he)]
    rfl
  rw [yearText_eq, yearText_eq, List.append_assoc, List.append_assoc] at h
  obtain ⟨hsign, hrest⟩ := Text.run_append_inj (fun _ => mem_yearSign) (fun _ => mem_yearSign)
    (hdigits _ _) (hdigits _ _) h
  obtain ⟨hvalue, hend⟩ := paddedDigits_append_inj hc hd hrest
  have hnegative : y < 0 ↔ z < 0 := by
    rw [← minus_mem_yearSign, hsign, minus_mem_yearSign]
  exact ⟨by omega, hend⟩

end Parts

/-- The text of an instant says what is kept of it when the part below the millisecond is
dropped. -/
theorem toMillis_eq_of_text {t u : Instant} (h : t.text = u.text) : t.toMillis = u.toMillis := by
  rw [text_eq, text_eq] at h
  obtain ⟨hyear, h⟩ := yearText_append_inj (by decide) (by decide) h
  obtain ⟨hmonth, h⟩ := paddedDigits_append_inj (by decide) (by decide) (List.tail_eq_of_cons_eq h)
  obtain ⟨hday, h⟩ := paddedDigits_append_inj (by decide) (by decide) (List.tail_eq_of_cons_eq h)
  obtain ⟨hhour, h⟩ := paddedDigits_append_inj (by decide) (by decide) (List.tail_eq_of_cons_eq h)
  obtain ⟨hminute, h⟩ := paddedDigits_append_inj (by decide) (by decide) (List.tail_eq_of_cons_eq h)
  obtain ⟨hsecond, h⟩ := paddedDigits_append_inj (by decide) (by decide) (List.tail_eq_of_cons_eq h)
  obtain ⟨hmillis, -⟩ := paddedDigits_append_inj (by decide) (by decide) (List.tail_eq_of_cons_eq h)
  have hdate : t.day = u.day := by
    cases hd : t.day
    cases he : u.day
    simp only [hd, he] at hyear hmonth hday
    rw [hyear, hmonth, hday]
  have hnumber : t.seconds / 86400 = u.seconds / 86400 := by
    rw [← (Calendar.Day.ofNumber_spec (t.seconds / 86400)).2.1,
      ← (Calendar.Day.ofNumber_spec (u.seconds / 86400)).2.1]
    exact congrArg Calendar.Day.number hdate
  have hseconds : t.seconds = u.seconds := by
    unfold secondOfDay at hhour hminute hsecond
    omega
  simp only [toMillis, hseconds, hmillis]

end Instant

namespace ObjectId

lemma hexChars_injective {a b : ObjectId} (h : a.hexChars = b.hexChars) : a = b := by
  have hbytes : a.bytes = b.bytes := by
    rw [← pairBytes_flatMap a.bytes, ← pairBytes_flatMap b.bytes]
    exact congrArg pairBytes h
  cases a
  cases b
  cases hbytes
  rfl

lemma quote_not_mem_hexChars (id : ObjectId) : '"' ∉ id.hexChars := by
  intro hmem
  obtain ⟨b, -, hb⟩ := List.mem_flatMap.mp hmem
  exact absurd (isHexDigit_of_mem_byteDigits b _ hb) (by decide)

end ObjectId

namespace Pattern

lemma eq_of_source {p q : Pattern} (hsource : p.source = q.source)
    (hflag : p.ignoreCase = q.ignoreCase) : p = q := by
  cases p
  cases q
  cases hsource
  cases hflag
  rfl

/-- The flag of a pattern is seen unless it is followed by a letter that it could be. -/
lemma options_append_inj {p q : Pattern} {r s : List Char} (hr : r.head? ≠ some 'i')
    (hs : s.head? ≠ some 'i') (h : p.options.toList ++ r = q.options.toList ++ s) :
    p.ignoreCase = q.ignoreCase ∧ r = s := by
  unfold options at h
  cases hp : p.ignoreCase <;> cases hq : q.ignoreCase <;> rw [hp, hq] at h
  · exact ⟨rfl, h⟩
  · exact absurd (congrArg List.head? h) hr
  · exact absurd (congrArg List.head? h).symm hs
  · exact ⟨rfl, List.tail_eq_of_cons_eq h⟩

end Pattern

namespace Double

section Texts

variable {style : NumeralStyle} {x y : Double}

lemma isNumeralChar_of_mem_text (hx : x.isFinite = true) :
    ∀ c ∈ x.text style, Text.isNumeralChar c = true := by
  have hmarks : ['.', 'e', '-', '+'].all Text.isNumeralChar = true := rfl
  intro c hc
  obtain hsign | hmagnitude := List.mem_append.mp hc
  · split_ifs at hsign
    · rw [List.mem_singleton.mp hsign]
      rfl
    · cases hsign
  · obtain ⟨_, _, _, htext, -⟩ := numeral_magnitudeText style (of_decide_eq_true hx)
    obtain hdigit | hmark := htext.mem c hmagnitude
    · exact Text.isNumeralChar_of_isDigit hdigit
    · exact List.all_eq_true.mp hmarks c hmark

lemma marked_text (hx : x.isFinite = true) : Text.Marked (x.text style) .number := by
  apply Text.marked_numeral _ (isNumeralChar_of_mem_text hx)
  intro hnil
  have hread := Literal.readNumber?_text style hx
  rw [hnil] at hread
  cases hread

/-- A finite number is determined by its text, with whatever comes after it. -/
lemma text_append_inj {r s : List Char} (hx : x.isFinite = true) (hy : y.isFinite = true)
    (hr : Text.Delimits r) (hs : Text.Delimits s) (h : x.text style ++ r = y.text style ++ s) :
    x = y ∧ r = s := by
  obtain ⟨htext, hend⟩ := Text.numeral_append_inj (isNumeralChar_of_mem_text hx)
    (isNumeralChar_of_mem_text hy) hr hs h
  have hread := Literal.readNumber?_text style hx
  rw [htext, Literal.readNumber?_text style hy] at hread
  exact ⟨(Option.some.inj hread).symm, hend⟩

end Texts

end Double

/-! ### Documents with other leaves -/

namespace Value

/-- The kind that the text of a value shows. -/
def kind : Value → Text.Kind
  | boolean _ => .boolean
  | double _ => .number
  | string _ => .string
  | regex _ => .regex
  | date _ => .date
  | objectId _ => .objectId
  | array _ => .array
  | document _ => .object

mutual

/-- The value with its numbers and instants replaced, at any depth. -/
def mapLeaves (number : Double → Double) (instant : Instant → Instant) : Value → Value
  | double x => double (number x)
  | date t => date (instant t)
  | array items => array (mapItems number instant items)
  | document entries => document (mapEntries number instant entries)
  | v => v

def mapItems (number : Double → Double) (instant : Instant → Instant) : List Value → List Value
  | [] => []
  | v :: rest => v.mapLeaves number instant :: mapItems number instant rest

def mapEntries (number : Double → Double) (instant : Instant → Instant) :
    List (String × Value) → List (String × Value)
  | [] => []
  | (key, v) :: rest => (key, v.mapLeaves number instant) :: mapEntries number instant rest

end

variable (number : Double → Double) (instant : Instant → Instant)

lemma mapItems_eq (items : List Value) :
    mapItems number instant items = items.map (mapLeaves number instant) := by
  induction items with
  | nil => rfl
  | cons v rest ih => rw [mapItems, ih, List.map_cons]

lemma mapEntries_eq (entries : List (String × Value)) :
    mapEntries number instant entries =
      entries.map fun e => (e.1, e.2.mapLeaves number instant) := by
  induction entries with
  | nil => rfl
  | cons e rest ih => rw [mapEntries, ih, List.map_cons]

end Value

/-- The document with its numbers and instants replaced. -/
def Document.mapLeaves (number : Double → Double) (instant : Instant → Instant) (d : Document) :
    Document :=
  ⟨Value.mapEntries number instant d.entries, by
    rw [Value.mapEntries_eq, List.map_map]
    exact d.keys_nodup⟩

lemma Document.mapLeaves_inj {number : Double → Double} {instant : Instant → Instant}
    {d e : Document} (h : d.toValue.mapLeaves number instant = e.toValue.mapLeaves number instant) :
    d.mapLeaves number instant = e.mapLeaves number instant := by
  simp only [toValue, Value.mapLeaves, Value.document.injEq] at h
  simp only [mapLeaves, h]

end FilterQuery
