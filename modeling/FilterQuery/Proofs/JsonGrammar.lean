import FilterQuery.Proofs.Tokens

/-!
# The grammar of JSON

`Json.IsText` says which texts are texts of JSON. Only four characters are white space there, and
every other character stands for itself, so white space of any other kind can stand only within a
string. Following the quotes of a text tells where its strings are, and a text that goes on outside
of its strings with such white space is not the beginning of any text of JSON.
-/

namespace FilterQuery.Json

def spaces : List Char := [' ', '\t', '\n', '\r']

def Gap (cs : List Char) : Prop :=
  ∀ c ∈ cs, c ∈ spaces

def Digits (cs : List Char) : Prop :=
  cs ≠ [] ∧ ∀ c ∈ cs, c.isDigit = true

inductive Fraction : List Char → Prop where
  | absent : Fraction []
  | digits {ds : List Char} : Digits ds → Fraction ('.' :: ds)

inductive Exponent : List Char → Prop where
  | absent : Exponent []
  | digits {mark sign ds : List Char} :
      mark ∈ [['e'], ['E']] → sign ∈ [[], ['+'], ['-']] → Digits ds →
      Exponent (mark ++ sign ++ ds)

/-- A number: zeros stand in front of its integer only if it is zero. -/
inductive Number : List Char → Prop where
  | intro {sign whole fraction exponent : List Char} :
      sign ∈ [[], ['-']] → Digits whole → (whole.head? = some '0' → whole = ['0']) →
      Fraction fraction → Exponent exponent → Number (sign ++ whole ++ fraction ++ exponent)

/-- What stands between the quotes of a string. -/
inductive StringBody : List Char → Prop where
  | nil : StringBody []
  | char {c : Char} {cs : List Char} :
      0x20 ≤ c.toNat → c ≠ '"' → c ≠ '\\' → StringBody cs → StringBody (c :: cs)
  | escape {c : Char} {cs : List Char} :
      c ∈ ['"', '\\', '/', 'b', 'f', 'n', 'r', 't'] → StringBody cs →
      StringBody ('\\' :: c :: cs)
  | codePoint {ds cs : List Char} :
      ds.length = 4 → (∀ d ∈ ds, ObjectId.isHexDigit d = true) → StringBody cs →
      StringBody ('\\' :: 'u' :: (ds ++ cs))

inductive Symbol where
  | value
  | items
  | members

/-- `Derives s cs`: the text `cs` is an `s`. -/
inductive Derives : Symbol → List Char → Prop where
  | word {cs : List Char} :
      cs ∈ ["null".toList, "true".toList, "false".toList] → Derives .value cs
  | number {cs : List Char} : Number cs → Derives .value cs
  | string {cs : List Char} : StringBody cs → Derives .value ('"' :: (cs ++ ['"']))
  | emptyArray {w : List Char} : Gap w → Derives .value ('[' :: (w ++ [']']))
  | array {cs : List Char} : Derives .items cs → Derives .value ('[' :: (cs ++ [']']))
  | emptyObject {w : List Char} : Gap w → Derives .value ('\x7b' :: (w ++ ['\x7d']))
  | object {cs : List Char} : Derives .members cs → Derives .value ('\x7b' :: (cs ++ ['\x7d']))
  | item {v cs w : List Char} :
      Gap v → Derives .value cs → Gap w → Derives .items (v ++ (cs ++ w))
  | nextItem {cs ds : List Char} :
      Derives .items cs → Derives .items ds → Derives .items (cs ++ ',' :: ds)
  | member {u key v w cs x : List Char} :
      Gap u → StringBody key → Gap v → Gap w → Derives .value cs → Gap x →
      Derives .members (u ++ ('"' :: (key ++ ['"']) ++ (v ++ ':' :: (w ++ (cs ++ x)))))
  | nextMember {cs ds : List Char} :
      Derives .members cs → Derives .members ds → Derives .members (cs ++ ',' :: ds)

/-- The whole of a text is a value with white space around it. -/
def IsText (cs : List Char) : Prop :=
  ∃ v value w, Gap v ∧ Derives .value value ∧ Gap w ∧ cs = v ++ (value ++ w)

/-! ### Outside of strings -/

/-- White space, but not of JSON. -/
def IsStray (c : Char) : Prop :=
  Unicode.isSpace c = true ∧ c ∉ spaces

instance : DecidablePred IsStray :=
  fun c => inferInstanceAs (Decidable (Unicode.isSpace c = true ∧ c ∉ spaces))

/-- A character of ASCII that is neither white space nor a control character. -/
def isVisible (c : Char) : Bool :=
  0x20 < c.toNat && c.toNat < 0x80

lemma not_isStray_of_isVisible {c : Char} (h : isVisible c = true) : ¬IsStray c := by
  intro hstray
  obtain ⟨r, hr, hc⟩ := List.any_eq_true.mp hstray.1
  simp only [isVisible, Bool.and_eq_true, decide_eq_true_eq] at h hc
  have hrange : ∀ r ∈ Unicode.spaceTable, r.2 ≤ 0x20 ∨ 0x80 ≤ r.1 := by decide
  have := hrange r hr
  omega

lemma isVisible_of_isDigit {c : Char} (h : c.isDigit = true) : isVisible c = true := by
  simp only [Char.isDigit, Bool.and_eq_true, decide_eq_true_eq, ge_iff_le,
    UInt32.le_iff_toNat_le] at h
  change '0'.toNat ≤ c.toNat ∧ c.toNat ≤ '9'.toNat at h
  have hzero : '0'.toNat = 48 := rfl
  have hnine : '9'.toNat = 57 := rfl
  simp only [isVisible, Bool.and_eq_true, decide_eq_true_eq]
  omega

/-- Where a character stands in a text. -/
inductive Mode where
  | outside
  | string
  | escape
deriving DecidableEq

namespace Mode

def next : Mode → Char → Mode
  | outside, c => if c = '"' then string else outside
  | string, c => if c = '"' then outside else if c = '\\' then escape else string
  | escape, _ => string

/-- Strings are closed again, and no stray white space stands outside of them. -/
def Tidy : Mode → List Char → Prop
  | mode, [] => mode = outside
  | mode, c :: cs => (mode = outside → ¬IsStray c) ∧ Tidy (mode.next c) cs

variable {cs ds : List Char} {mode : Mode} {c : Char}

lemma Tidy.append (hcs : Tidy mode cs) (hds : Tidy .outside ds) : Tidy mode (cs ++ ds) := by
  induction cs generalizing mode with
  | nil =>
    cases hcs
    exact hds
  | cons c cs ih => exact ⟨hcs.1, ih hcs.2⟩

/-- What follows tidy text stands outside of strings again. -/
lemma Tidy.of_append (hcs : Tidy mode cs) (h : Tidy mode (cs ++ ds)) : Tidy .outside ds := by
  induction cs generalizing mode with
  | nil =>
    cases hcs
    exact h
  | cons c cs ih => exact ih hcs.2 h.2

lemma next_outside (hc : c ≠ '"') : next .outside c = .outside :=
  if_neg hc

lemma next_string (hquote : c ≠ '"') (hbackslash : c ≠ '\\') : next .string c = .string := by
  rw [next, if_neg hquote, if_neg hbackslash]

lemma Tidy.cons (hquote : c ≠ '"') (hc : ¬IsStray c) (hcs : Tidy .outside cs) :
    Tidy .outside (c :: cs) := by
  refine ⟨fun _ => hc, ?_⟩
  rwa [next_outside hquote]

lemma tidy_of_plain (h : ∀ c ∈ cs, c ≠ '"' ∧ ¬IsStray c) : Tidy .outside cs := by
  induction cs with
  | nil => rfl
  | cons c cs ih =>
    obtain ⟨hquote, hc⟩ := h c List.mem_cons_self
    exact .cons hquote hc (ih fun d hd => h d (List.mem_cons_of_mem c hd))

lemma tidy_of_visible (hvisible : cs.all isVisible = true) (hquote : '"' ∉ cs) :
    Tidy .outside cs := by
  apply tidy_of_plain
  intro c hc
  refine ⟨?_, not_isStray_of_isVisible (List.all_eq_true.mp hvisible c hc)⟩
  rintro rfl
  exact hquote hc

lemma Tidy.cons_string (hquote : c ≠ '"') (hbackslash : c ≠ '\\') (hcs : Tidy .string cs) :
    Tidy .string (c :: cs) := by
  refine ⟨nofun, ?_⟩
  rwa [next_string hquote hbackslash]

/-- An escaped character closes no string. -/
lemma Tidy.cons_escape (hcs : Tidy .string cs) : Tidy .string ('\\' :: c :: cs) :=
  ⟨nofun, nofun, hcs⟩

end Mode

section Tidy

open Mode (Tidy)

variable {cs : List Char}

lemma tidy_hexDigits {ds : List Char} (hds : ∀ d ∈ ds, ObjectId.isHexDigit d = true)
    (hcs : Tidy .string cs) : Tidy .string (ds ++ cs) := by
  induction ds with
  | nil => exact hcs
  | cons d ds ih =>
    have hd := hds d List.mem_cons_self
    refine .cons_string ?_ ?_ (ih fun e he => hds e (List.mem_cons_of_mem d he))
    · rintro rfl
      cases hd
    · rintro rfl
      cases hd

lemma tidy_of_stringBody (h : StringBody cs) : Tidy .string (cs ++ ['"']) := by
  induction h with
  | nil => exact ⟨nofun, rfl⟩
  | char _ hquote hbackslash _ ih => exact .cons_string hquote hbackslash ih
  | escape _ _ ih => exact .cons_escape ih
  | codePoint _ hds _ ih =>
    rw [List.cons_append, List.cons_append, List.append_assoc]
    exact .cons_escape (tidy_hexDigits hds ih)

lemma tidy_string (h : StringBody cs) : Tidy .outside ('"' :: (cs ++ ['"'])) :=
  ⟨fun _ => by decide, tidy_of_stringBody h⟩

lemma tidy_gap (h : Gap cs) : Tidy .outside cs := by
  apply Mode.tidy_of_plain
  intro c hc
  refine ⟨?_, fun hstray => hstray.2 (h c hc)⟩
  rintro rfl
  exact absurd (h _ hc) (by decide)

lemma tidy_of_mem {css : List (List Char)} (hcs : cs ∈ css)
    (hcss : ∀ ds ∈ css, ds.all isVisible = true ∧ '"' ∉ ds) : Tidy .outside cs :=
  Mode.tidy_of_visible (hcss cs hcs).1 (hcss cs hcs).2

lemma tidy_digits (h : Digits cs) : Tidy .outside cs := by
  apply Mode.tidy_of_visible
  · exact List.all_eq_true.mpr fun c hc => isVisible_of_isDigit (h.2 c hc)
  · intro hquote
    cases h.2 _ hquote

lemma tidy_fraction (h : Fraction cs) : Tidy .outside cs := by
  cases h with
  | absent => rfl
  | digits hds =>
    have hpoint : Tidy .outside ['.'] := Mode.tidy_of_visible (by decide) (by decide)
    exact hpoint.append (tidy_digits hds)

lemma tidy_exponent (h : Exponent cs) : Tidy .outside cs := by
  cases h with
  | absent => rfl
  | digits hmark hsign hds =>
    have hmark' := tidy_of_mem hmark (by decide)
    exact (hmark'.append (tidy_of_mem hsign (by decide))).append (tidy_digits hds)

lemma tidy_number (h : Number cs) : Tidy .outside cs := by
  obtain ⟨hsign, hwhole, -, hfraction, hexponent⟩ := h
  have hinteger := (tidy_of_mem hsign (by decide)).append (tidy_digits hwhole)
  exact (hinteger.append (tidy_fraction hfraction)).append (tidy_exponent hexponent)

/-- A text of JSON is tidy, and so is each part of it that has a symbol. -/
lemma tidy_of_derives {s : Symbol} (h : Derives s cs) : Tidy .outside cs := by
  have hcons {c : Char} {ds : List Char} (hds : Tidy .outside ds)
      (hc : c ≠ '"' ∧ isVisible c = true) : Tidy .outside (c :: ds) :=
    hds.cons hc.1 (not_isStray_of_isVisible hc.2)
  have hclose {c : Char} (hc : c ≠ '"' ∧ isVisible c = true) : Tidy .outside [c] := hcons rfl hc
  induction h with
  | word hcs => exact tidy_of_mem hcs (by decide)
  | number hnumber => exact tidy_number hnumber
  | string hbody => exact tidy_string hbody
  | emptyArray hw => exact hcons ((tidy_gap hw).append (hclose (by decide))) (by decide)
  | array _ ih => exact hcons (ih.append (hclose (by decide))) (by decide)
  | emptyObject hw => exact hcons ((tidy_gap hw).append (hclose (by decide))) (by decide)
  | object _ ih => exact hcons (ih.append (hclose (by decide))) (by decide)
  | item hv _ hw ih => exact (tidy_gap hv).append (ih.append (tidy_gap hw))
  | nextItem _ _ ih₁ ih₂ => exact ih₁.append (hcons ih₂ (by decide))
  | member hu hkey hv hw _ hx ih =>
    have hvalue := (tidy_gap hw).append (ih.append (tidy_gap hx))
    have hcolon := (tidy_gap hv).append (hcons (c := ':') hvalue (by decide))
    exact (tidy_gap hu).append ((tidy_string hkey).append hcolon)
  | nextMember _ _ ih₁ ih₂ => exact ih₁.append (hcons ih₂ (by decide))

/-- No text of JSON goes on with stray white space where all strings are closed. -/
theorem not_isText_of_isStray {c : Char} (hcs : Tidy .outside cs) (hc : IsStray c)
    (rest : List Char) : ¬IsText (cs ++ c :: rest) := by
  rintro ⟨v, value, w, hv, hvalue, hw, heq⟩
  have htext := (tidy_gap hv).append ((tidy_of_derives hvalue).append (tidy_gap hw))
  rw [← heq] at htext
  have hrest := hcs.of_append htext
  exact hrest.1 rfl hc

end Tidy

end FilterQuery.Json
