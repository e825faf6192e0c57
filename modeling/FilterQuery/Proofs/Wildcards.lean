import FilterQuery.Proofs.Reachability
import FilterQuery.Proofs.WildcardReading

/-!
# What wildcards match

A text fills in a wildcard if it is the wildcard with some text within a line in the place of every
star. The pattern that a wildcard is compiled to matches exactly the texts that fill it in, whatever
other characters there are in the wildcard.
-/

namespace FilterQuery

/-- The text is what becomes of the wildcard when every star is replaced by a text without a line
feed. -/
inductive Fills : List Char → List Char → Prop where
  | nil : Fills [] []
  | star {t u s : List Char} : '\n' ∉ u → Fills t s → Fills ('*' :: t) (u ++ s)
  | char {c : Char} {t s : List Char} : c ≠ '*' → Fills t s → Fills (c :: t) (c :: s)

lemma fills_nil_iff {s : List Char} : Fills [] s ↔ s = [] := by
  constructor
  · rintro ⟨⟩
    rfl
  · rintro rfl
    exact .nil

lemma fills_star_iff {t s : List Char} :
    Fills ('*' :: t) s ↔ ∃ u v, '\n' ∉ u ∧ Fills t v ∧ s = u ++ v := by
  constructor
  · intro h
    cases h with
    | star hu hrest => exact ⟨_, _, hu, hrest, rfl⟩
    | char hstar => exact absurd rfl hstar
  · rintro ⟨u, v, hu, hrest, rfl⟩
    exact .star hu hrest

lemma fills_char_iff {c : Char} {t s : List Char} (hc : c ≠ '*') :
    Fills (c :: t) s ↔ ∃ v, Fills t v ∧ s = c :: v := by
  constructor
  · intro h
    cases h with
    | star => exact absurd rfl hc
    | char _ hrest => exact ⟨_, hrest, rfl⟩
  · rintro ⟨v, hrest, rfl⟩
    exact .char hc hrest

namespace Regex

section Matching

variable {text : List Char} {i j : Nat}

lemma length_of_drop_eq_append {u : List Char} {n : Nat} (hi : i ≤ text.length)
    (hu : u.length = n) (h : text.drop i = u ++ text.drop (i + n)) : i + n ≤ text.length := by
  have hlength := congrArg List.length h
  rw [List.length_append, List.length_drop, List.length_drop] at hlength
  omega

lemma contains_single {c d : Char} : (CharSet.single c).contains d = true ↔ d = c := by
  have hrange : (CharSet.single c).contains d = true ↔ c.toNat ≤ d.toNat ∧ d.toNat ≤ c.toNat := by
    simp [CharSet.single, CharSet.contains, Unicode.RangeTable.contains,
      Unicode.RangeTable.containsCode]
  rw [hrange, ← Nat.le_antisymm_iff, Char.toNat_inj, eq_comm]

lemma contains_inLine {c : Char} : CharSet.inLine.contains c = true ↔ c ≠ '\n' := by
  have hvalid : c.toNat < 0xD800 ∨ 0xDFFF < c.toNat ∧ c.toNat < 0x110000 := c.valid
  have hlast : CharSet.lastCode = 0x10FFFF := rfl
  have hranges : CharSet.inLine.contains c = true ↔
      c.toNat ≤ 9 ∨ 11 ≤ c.toNat ∧ c.toNat ≤ CharSet.lastCode := by
    simp [CharSet.inLine, CharSet.contains, Unicode.RangeTable.contains,
      Unicode.RangeTable.containsCode]
  have hline : c = '\n' ↔ c.toNat = 10 := Char.toNat_inj.symm
  rw [hranges, ne_eq, hline]
  omega

/-- By induction on the wildcard: from a position to the end, the text fills in what is left. -/
lemma matches_wildcard_tail {t : List Char} (hi : i ≤ text.length) :
    Matches text.toArray (sequence (t.map wildcardItem ++ [assertion .textEnd])) i j ↔
      j = text.length ∧ Fills t (text.drop i) := by
  induction t generalizing i with
  | nil =>
    have hend : Matches text.toArray (assertion .textEnd) i j ↔ i = text.length ∧ i = j := by
      simp [Matches, Assertion.holdsAt]
    rw [fills_nil_iff, List.drop_eq_nil_iff]
    refine hend.trans ⟨?_, ?_⟩
    · rintro ⟨rfl, rfl⟩
      exact ⟨rfl, Nat.le_refl _⟩
    · rintro ⟨rfl, hle⟩
      exact ⟨Nat.le_antisymm hi hle, Nat.le_antisymm hi hle⟩
  | cons c t ih =>
    rw [List.map_cons, List.cons_append, matches_sequence_cons, wildcardItem]
    split_ifs with hstar
    · rw [hstar, fills_star_iff]
      constructor
      · rintro ⟨k, ⟨n, -, -, hsteps⟩, hrest⟩
        obtain ⟨⟨u, hlength, hu, hdrop⟩, rfl⟩ := steps_set_iff.mp hsteps
        have hk := length_of_drop_eq_append hi hlength hdrop
        obtain ⟨rfl, hfills⟩ := (ih hk).mp hrest
        exact ⟨rfl, u, _, fun hline => contains_inLine.mp (hu _ hline) rfl, hfills, hdrop⟩
      · rintro ⟨rfl, u, v, hu, hfills, hdrop⟩
        have hv : text.drop (i + u.length) = v := by
          rw [← List.drop_drop, hdrop, List.drop_left]
        rw [← hv] at hdrop hfills
        have hk := length_of_drop_eq_append hi rfl hdrop
        have hmost : ∀ m ∈ (none : Option Nat), u.length ≤ max 0 m := by
          rintro m ⟨⟩
        refine ⟨i + u.length, ⟨u.length, Nat.zero_le _, hmost, ?_⟩, (ih hk).mpr ⟨rfl, hfills⟩⟩
        have hset : ∀ c ∈ u, CharSet.inLine.contains c = true :=
          fun c hc => contains_inLine.mpr fun hline => hu (hline ▸ hc)
        exact steps_set_iff.mpr ⟨⟨u, rfl, hset, hdrop⟩, rfl⟩
    · rw [fills_char_iff hstar]
      constructor
      · rintro ⟨k, hset, hrest⟩
        obtain ⟨⟨d, hd, hdrop⟩, rfl⟩ := matches_set_iff.mp hset
        have hk := length_of_drop_eq_append (u := [d]) hi rfl hdrop
        obtain ⟨rfl, hfills⟩ := (ih hk).mp hrest
        rw [contains_single] at hd
        exact ⟨rfl, _, hfills, hd ▸ hdrop⟩
      · rintro ⟨rfl, v, hfills, hdrop⟩
        have hv : text.drop (i + 1) = v := by
          rw [← List.tail_drop, hdrop, List.tail_cons]
        rw [← hv] at hdrop hfills
        have hk := length_of_drop_eq_append (u := [c]) hi rfl hdrop
        exact ⟨i + 1, matches_set_iff.mpr ⟨⟨c, contains_single.mpr rfl, hdrop⟩, rfl⟩,
          (ih hk).mpr ⟨rfl, hfills⟩⟩

theorem isMatch_wildcard {t : List Char} : (wildcard t).isMatch text = true ↔ Fills t text := by
  have htail {j : Nat} := matches_wildcard_tail (t := t) (j := j) (Nat.zero_le text.length)
  simp only [isMatch_iff, wildcard, matches_sequence_cons]
  constructor
  · rintro ⟨i, -, j, k, ⟨hi, rfl⟩, hk⟩
    obtain rfl : i = 0 := by simpa [Assertion.holdsAt] using hi
    exact (htail.mp hk).2
  · intro h
    exact ⟨0, Nat.zero_le _, text.length, 0, ⟨rfl, rfl⟩, htail.mpr ⟨rfl, h⟩⟩

end Matching

end Regex

/-- A source that can be compiled and is not too big gives a pattern, which matches what the matcher
does. -/
lemma Literal.exists_regex_of_fits {source : List Char} {ignoreCase : Bool} {m : Pattern.Matcher}
    (hm : Pattern.Matcher.ofSource? ignoreCase source = some m) (hfits : m.fits = true) :
    ∃ p, ofSource source ignoreCase = .ok (regex p) ∧ p.ignoreCase = ignoreCase ∧
      ∀ s, p.isMatch s = m.isMatch s.toList := by
  have hcompile : (Pattern.compile? ignoreCase (String.ofList source)).isSome = true := by
    rw [Pattern.compile?, String.toList_ofList, hm, Option.filter_some, if_pos hfits]
    rfl
  refine ⟨⟨String.ofList source, ignoreCase, hcompile⟩, ?_, rfl, fun s => ?_⟩
  · have hpattern : Pattern.ofSource? (String.ofList source) ignoreCase =
        some ⟨String.ofList source, ignoreCase, hcompile⟩ := dif_pos hcompile
    unfold ofSource
    dsimp only
    rw [hpattern]
  · simp only [Pattern.isMatch, Pattern.matcher, String.toList_ofList, hm, Option.get_some]

/-- The words for truth values. -/
def Literal.truthWords : List (List Char × Bool) :=
  [("true".toList, true), ("yes".toList, true), ("false".toList, false), ("no".toList, false)]

lemma Literal.not_mem_truthWords_of_star {t : List Char} (h : '*' ∈ t) (b : Bool) :
    (t, b) ∉ truthWords := by
  have hstars : ∀ word ∈ truthWords, '*' ∉ word.1 := by decide
  exact fun hword => hstars (t, b) hword h

lemma Literal.ofBare_of_not_mem_truthWords {t : List Char} (h : ∀ b, (t, b) ∉ truthWords) :
    ofBare t =
      if '*' ∈ t then ofSource (wildcardSource t) false else .ok (string (String.ofList t)) := by
  have htrue : ¬(t = ['t', 'r', 'u', 'e'] ∨ t = ['y', 'e', 's']) := by
    rintro (rfl | rfl)
    · exact h true (by decide)
    · exact h true (by decide)
  have hfalse : ¬(t = ['f', 'a', 'l', 's', 'e'] ∨ t = ['n', 'o']) := by
    rintro (rfl | rfl)
    · exact h false (by decide)
    · exact h false (by decide)
  rw [ofBare, if_neg htrue, if_neg hfalse]
  simp only [List.contains_iff_mem]

lemma Literal.ofText_of_star {t : List Char} {ignoreCase : Bool} (hstar : '*' ∈ t)
    (hhead : ∀ c ∈ t.head?, c ≠ '/' ∧ isQuote c = false) :
    ofText ignoreCase t = ofSource (wildcardSource t) false := by
  have hbare : ofText ignoreCase t = ofBare t := by
    cases t with
    | nil => rfl
    | cons c rest =>
      obtain ⟨hslash, hquote⟩ := hhead c rfl
      rw [ofText, if_neg hslash, hquote, if_neg Bool.false_ne_true]
  rw [hbare, ofBare_of_not_mem_truthWords (not_mem_truthWords_of_star hstar), if_pos hstar]

/-- A text with a star, unless it starts like a pattern or a quoted text, stands for a pattern that
minds letter case. It matches the texts that fill in the wildcard, and no others. -/
theorem Literal.ofText_wildcard {t : List Char} {ignoreCase : Bool} (hstar : '*' ∈ t)
    (hhead : ∀ c ∈ t.head?, c ≠ '/' ∧ isQuote c = false)
    (hfits : ∀ m ∈ Pattern.Matcher.ofSource? false (wildcardSource t), m.fits = true) :
    ∃ p, ofText ignoreCase t = .ok (regex p) ∧ p.ignoreCase = false ∧
      ∀ s : String, p.isMatch s = true ↔ Fills t s.toList := by
  have hmatcher := Pattern.Matcher.ofSource?_wildcardSource t
  obtain ⟨p, hp, hcase, hmatch⟩ := exists_regex_of_fits hmatcher (hfits _ hmatcher)
  refine ⟨p, ?_, hcase, fun s => ?_⟩
  · rw [ofText_of_star hstar hhead, hp]
  · rw [hmatch]
    exact Regex.isMatch_wildcard

/-- The point of a wildcard stands for itself alone, and its star for no line feed. -/
theorem Literal.ofText_wildcard_point :
    ∃ p, ofText true "a.*".toList = .ok (regex p) ∧ p.isMatch "a.b*" = true ∧
      p.isMatch "A.b" = false ∧ p.isMatch "acb" = false ∧ p.isMatch "a.b\n" = false := by
  have hhead : ∀ c ∈ "a.*".toList.head?, c ≠ '/' ∧ isQuote c = false := by
    rintro c ⟨⟩
    decide
  have hfits : ∀ m ∈ Pattern.Matcher.ofSource? false (wildcardSource "a.*".toList),
      m.fits = true := by
    rw [Pattern.Matcher.ofSource?_wildcardSource]
    rintro m ⟨⟩
    decide +kernel
  obtain ⟨p, hp, -, hmatch⟩ := ofText_wildcard (t := "a.*".toList) (by decide) hhead hfits
  refine ⟨p, hp, (hmatch _).mpr ?_, ?_, ?_, ?_⟩
  · exact .char (by decide) (.char (by decide) (.star (u := ['b', '*']) (by decide) .nil))
  all_goals
    rw [Bool.eq_false_iff, ne_eq, hmatch]
    simp [fills_char_iff, fills_star_iff, fills_nil_iff]

end FilterQuery
