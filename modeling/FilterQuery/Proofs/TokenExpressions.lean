import FilterQuery.Proofs.Reachability
import FilterQuery.Proofs.Tokens
import FilterQuery.Regex.Reader

/-!
# Tokens as regular expressions

The tokens of a query are those of two regular expressions, one for keywords and one for a
comparator with a value. `Regex.Captures` says which groups take part in a match. Every match of the
one expression has a group that is a keyword, and every match of the other has just one of the groups
that stand for the kinds of values.
-/

namespace FilterQuery

namespace Regex

/-- A group that took part in a match, and between which positions. -/
abbrev Capture := ℕ × ℕ × ℕ

/-- A number of steps, one after the other, with the groups that take part in each. -/
inductive Rounds (R : ℕ → ℕ → List Capture → Prop) : ℕ → ℕ → ℕ → List Capture → Prop where
  | zero {i : ℕ} : Rounds R 0 i i []
  | succ {n i k j : ℕ} {gs hs : List Capture} :
      R i k gs → Rounds R n k j hs → Rounds R (n + 1) i j (gs ++ hs)

/-- The expression matches the part of a text between two positions, and the groups that take part
are those of a list. -/
def Captures (text : Array Char) : Regex → ℕ → ℕ → List Capture → Prop
  | empty, i, j, gs => i = j ∧ gs = []
  | set s _, i, j, gs => (∃ c, text[i]? = some c ∧ s.contains c = true) ∧ j = i + 1 ∧ gs = []
  | assertion a, i, j, gs => a.holdsAt text i = true ∧ i = j ∧ gs = []
  | seq r s, i, j, gs => ∃ k hs ks, Captures text r i k hs ∧ Captures text s k j ks ∧ gs = hs ++ ks
  | alt r s, i, j, gs => Captures text r i j gs ∨ Captures text s i j gs
  | group none r, i, j, gs => Captures text r i j gs
  | group (some n) r, i, j, gs => ∃ hs, Captures text r i j hs ∧ gs = (n, i, j) :: hs
  | repeated r least most _, i, j, gs =>
    ∃ n, least ≤ n ∧ (∀ m ∈ most, n ≤ max least m) ∧ Rounds (Captures text r) n i j gs

/-- How many of the groups with a property take part in a match, if that is the same in every
match. -/
def countGroups? (p : ℕ → Bool) : Regex → Option ℕ
  | empty | set _ _ | assertion _ => some 0
  | seq r s => do
    let m ← r.countGroups? p
    let n ← s.countGroups? p
    some (m + n)
  | alt r s => do
    let m ← r.countGroups? p
    let n ← s.countGroups? p
    if m = n then some m else none
  | group none r => r.countGroups? p
  | group (some n) r => (r.countGroups? p).map (· + if p n then 1 else 0)
  | repeated r _ _ _ => (r.countGroups? p).filter (· = 0)

section Captures

variable {text : Array Char} {i j : ℕ} {gs : List Capture}

lemma exists_rounds_iff {R : ℕ → ℕ → List Capture → Prop} {n : ℕ} :
    (∃ gs, Rounds R n i j gs) ↔ Steps (fun i j => ∃ gs, R i j gs) n i j := by
  constructor
  · rintro ⟨gs, h⟩
    induction h with
    | zero => exact .zero
    | succ hstep _ ih => exact .succ ⟨_, hstep⟩ ih
  · intro h
    induction h with
    | zero => exact ⟨[], .zero⟩
    | succ hstep _ ih =>
      obtain ⟨gs, hgs⟩ := hstep
      obtain ⟨hs, hhs⟩ := ih
      exact ⟨gs ++ hs, .succ hgs hhs⟩

/-- Every match has its groups, and apart from them it is a match as before. -/
theorem exists_captures_iff {r : Regex} : (∃ gs, Captures text r i j gs) ↔ Matches text r i j := by
  induction r generalizing i j with
  | empty => simp [Captures, Matches]
  | set s n => simp [Captures, Matches]
  | assertion a => simp [Captures, Matches]
  | seq r s ihr ihs =>
    simp only [Captures, Matches, ← ihr, ← ihs]
    constructor
    · rintro ⟨-, k, hs, ks, hr, hs', -⟩
      exact ⟨k, ⟨hs, hr⟩, ⟨ks, hs'⟩⟩
    · rintro ⟨k, ⟨hs, hr⟩, ⟨ks, hs'⟩⟩
      exact ⟨hs ++ ks, k, hs, ks, hr, hs', rfl⟩
  | alt r s ihr ihs => simp only [Captures, Matches, ← ihr, ← ihs, exists_or]
  | group index r ih =>
    rw [Matches, ← ih]
    cases index with
    | none => rfl
    | some n =>
      constructor
      · rintro ⟨-, hs, h, rfl⟩
        exact ⟨hs, h⟩
      · rintro ⟨hs, h⟩
        exact ⟨_, hs, h, rfl⟩
  | repeated r least most greedy ih =>
    have hsame : Matches text r = fun i j => ∃ gs, Captures text r i j gs := by
      ext i j
      exact ih.symm
    simp only [Captures, Matches, hsame, ← exists_rounds_iff]
    constructor
    · rintro ⟨gs, n, hleast, hmost, hrounds⟩
      exact ⟨n, hleast, hmost, gs, hrounds⟩
    · rintro ⟨n, hleast, hmost, gs, hrounds⟩
      exact ⟨gs, n, hleast, hmost, hrounds⟩

/-- By induction on the expression, the count is that of every match. -/
theorem countP_of_countGroups? {r : Regex} {p : ℕ → Bool} {n : ℕ}
    (hcount : r.countGroups? p = some n) (h : Captures text r i j gs) :
    gs.countP (fun g => p g.1) = n := by
  induction r generalizing i j gs n with
  | empty =>
    cases hcount
    rw [h.2]
    rfl
  | set s m =>
    cases hcount
    rw [h.2.2]
    rfl
  | assertion a =>
    cases hcount
    rw [h.2.2]
    rfl
  | seq r s ihr ihs =>
    simp only [countGroups?, Option.bind_eq_bind, Option.bind_eq_some_iff,
      Option.some.injEq] at hcount
    obtain ⟨m, hm, n', hn, rfl⟩ := hcount
    obtain ⟨k, hs, ks, hr, hs', rfl⟩ := h
    rw [List.countP_append, ihr hm hr, ihs hn hs']
  | alt r s ihr ihs =>
    simp only [countGroups?, Option.bind_eq_bind, Option.bind_eq_some_iff] at hcount
    obtain ⟨m, hm, n', hn, heq⟩ := hcount
    split_ifs at heq with hmn
    cases heq
    obtain hr | hs := h
    · exact ihr hm hr
    · exact ihs (hmn ▸ hn) hs
  | group index r ih =>
    cases index with
    | none => exact ih hcount h
    | some k =>
      simp only [countGroups?, Option.map_eq_some_iff] at hcount
      obtain ⟨m, hm, rfl⟩ := hcount
      obtain ⟨hs, hr, rfl⟩ := h
      rw [List.countP_cons, ih hm hr]
  | repeated r least most greedy ih =>
    simp only [countGroups?, Option.filter_eq_some_iff, decide_eq_true_eq] at hcount
    obtain ⟨hzero, rfl⟩ := hcount
    obtain ⟨m, -, -, hrounds⟩ := h
    induction hrounds with
    | zero => rfl
    | succ hstep _ ihrounds => rw [List.countP_append, ih hzero hstep, ihrounds]

/-- Without groups there is nothing to capture. -/
lemma captures_iff_of_countGroups? {r : Regex} (h : r.countGroups? (fun _ => true) = some 0) :
    Captures text r i j gs ↔ Matches text r i j ∧ gs = [] := by
  have hnil {hs : List Capture} (hr : Captures text r i j hs) : hs = [] := by
    have hcount := countP_of_countGroups? h hr
    rwa [List.countP_true, List.length_eq_zero_iff] at hcount
  constructor
  · exact fun hr => ⟨exists_captures_iff.mp ⟨gs, hr⟩, hnil hr⟩
  · rintro ⟨hmatch, rfl⟩
    obtain ⟨hs, hr⟩ := exists_captures_iff.mpr hmatch
    rwa [hnil hr] at hr

end Captures

/-! ### Keywords -/

section Keywords

/-- A letter in upper or in lower case. -/
def letter (c : Char) : Regex :=
  set ⟨[(c.toUpper.toNat, c.toUpper.toNat), (c.toNat, c.toNat)]⟩ 0

def letters (cs : List Char) : Regex :=
  sequence (cs.map letter)

def spaces : Regex :=
  repeated (set ⟨Unicode.spaceTable⟩ 0) 0 none true

def keywordGroup : Regex :=
  group none (group (some 1) (alt (letters ['a', 'n', 'd']) (letters ['o', 'r'])))

/-- A keyword with white space around it. -/
def keyword : Regex :=
  sequence [assertion .textStart, spaces, keywordGroup, assertion (.word .edge false), spaces]

/-- Case folding gives each letter of a keyword its other case and nothing more. -/
lemma read?_keyword : read? false "^\\s*(?i:(and|or))\\b\\s*".toList = some keyword := by
  decide +kernel

open Text Token Grammar

variable {text after : List Char} {i j : ℕ} {c : Char}

lemma of_toNat_lt {P : Char → Prop} {bound : ℕ} (h : ∀ n < bound, P (Char.ofNat n))
    (hc : c.toNat < bound) : P c := by
  have hchar := h c.toNat hc
  rwa [Char.ofNat_toNat] at hchar

lemma eq_toLower_or (d : Char) : d = d.toLower ∨ d = d.toLower.toUpper := by
  by_cases hd : d.toNat < 128
  · exact of_toNat_lt (P := fun d => d = d.toLower ∨ d = d.toLower.toUpper) (by decide) hd
  · left
    unfold Char.toLower
    rw [dif_neg]
    rintro ⟨-, hle⟩
    rw [UInt32.le_iff_toNat_le] at hle
    have hZ : 'Z'.val.toNat = 90 := rfl
    change ¬d.val.toNat < 128 at hd
    omega

lemma toLower_of_isLower (h : c.isLower = true) : c.toLower = c ∧ c.toUpper.toLower = c := by
  have hbound : c.toNat < 128 := by
    change (decide ('a'.val ≤ c.val) && decide (c.val ≤ 'z'.val)) = true at h
    simp only [Bool.and_eq_true, decide_eq_true_eq, UInt32.le_iff_toNat_le] at h
    have hz : 'z'.val.toNat = 122 := rfl
    change c.val.toNat < 128
    omega
  have hall : c.isLower = true → c.toLower = c ∧ c.toUpper.toLower = c :=
    of_toNat_lt (P := fun c => c.isLower = true → c.toLower = c ∧ c.toUpper.toLower = c)
      (by decide) hbound
  exact hall h

lemma contains_letter (h : c.isLower = true) (d : Char) :
    CharSet.contains ⟨[(c.toUpper.toNat, c.toUpper.toNat), (c.toNat, c.toNat)]⟩ d = true ↔
      d.toLower = c := by
  have hcontains : CharSet.contains ⟨[(c.toUpper.toNat, c.toUpper.toNat), (c.toNat, c.toNat)]⟩ d =
      true ↔ d = c.toUpper ∨ d = c := by
    simp only [CharSet.contains, Unicode.RangeTable.contains, Unicode.RangeTable.containsCode,
      List.any_cons, List.any_nil, Bool.or_false, Bool.or_eq_true, Bool.and_eq_true,
      decide_eq_true_eq, ← Char.toNat_inj]
    omega
  obtain ⟨hlower, hupper⟩ := toLower_of_isLower h
  rw [hcontains]
  constructor
  · rintro (rfl | rfl)
    · exact hupper
    · exact hlower
  · rintro rfl
    exact (eq_toLower_or d).symm

lemma matches_letters_iff {cs : List Char} (h : ∀ c ∈ cs, c.isLower = true) :
    Matches text.toArray (letters cs) i j ↔
      ∃ word, word.map Char.toLower = cs ∧ text.drop i = word ++ text.drop j ∧
        j = i + word.length := by
  induction cs generalizing i with
  | nil =>
    simp only [letters, List.map_nil, sequence, Matches, List.map_eq_nil_iff]
    constructor
    · rintro rfl
      exact ⟨[], rfl, rfl, rfl⟩
    · rintro ⟨-, rfl, -, rfl⟩
      rfl
  | cons c cs ih =>
    obtain ⟨hc, hcs⟩ := List.forall_mem_cons.mp h
    simp only [letters, List.map_cons, matches_sequence_cons] at ih ⊢
    simp only [letter, matches_set_iff, contains_letter hc, ih hcs]
    constructor
    · rintro ⟨k, ⟨⟨d, hd, htext⟩, rfl⟩, word, rfl, hrest, rfl⟩
      refine ⟨d :: word, by rw [List.map_cons, hd], ?_, by rw [List.length_cons]; omega⟩
      rw [htext, hrest, List.cons_append]
    · rintro ⟨word, hword, htext, rfl⟩
      obtain ⟨d, word, rfl, hd, rfl⟩ := List.map_eq_cons_iff.mp hword
      have hnext : text.drop (i + 1) = word ++ text.drop (i + (d :: word).length) := by
        rw [← List.tail_drop, htext, List.cons_append, List.tail_cons]
      refine ⟨i + 1, ⟨⟨d, hd, ?_⟩, rfl⟩, word, rfl, hnext, by rw [List.length_cons]; omega⟩
      rw [htext, hnext, List.cons_append]

lemma matches_spaces_iff :
    Matches text.toArray spaces i j ↔
      ∃ v, Blank v ∧ text.drop i = v ++ text.drop j ∧ j = i + v.length := by
  rw [spaces, Matches]
  constructor
  · rintro ⟨n, -, -, hsteps⟩
    obtain ⟨⟨v, rfl, hv, htext⟩, rfl⟩ := steps_set_iff.mp hsteps
    exact ⟨v, hv, htext, rfl⟩
  · rintro ⟨v, hv, htext, rfl⟩
    refine ⟨v.length, Nat.zero_le _, ?_, steps_set_iff.mpr ⟨⟨v, rfl, hv, htext⟩, rfl⟩⟩
    rintro m ⟨⟩

/-- Behind a character of a word there is an edge if the word does not go on. -/
lemma holdsAt_edge (v : List Char) (hc : Unicode.isWord c = true) :
    (Assertion.word .edge false).holdsAt (v ++ c :: after).toArray (v.length + 1) = true ↔
      ∀ d ∈ after.head?, Unicode.isWord d = false := by
  have hbefore : wordBefore false (v ++ c :: after).toArray (v.length + 1) = true := by
    simp [wordBefore, wordAfter, isWordChar, hc]
  have hafter : wordAfter false (v ++ c :: after).toArray (v.length + 1) =
      after.head?.any Unicode.isWord := by
    have hle : v.length ≤ v.length + 1 := by omega
    have hnext : (v ++ c :: after)[v.length + 1]? = after.head? := by
      rw [List.getElem?_append_right hle, Nat.add_sub_cancel_left, List.getElem?_cons_succ,
        List.head?_eq_getElem?]
    rw [wordAfter, List.getElem?_toArray, hnext]
    rfl
  rw [Assertion.holdsAt, WordEdge.holds, hbefore, hafter]
  cases after <;> simp

lemma captures_spaces_iff {gs : List Capture} :
    Captures text.toArray spaces i j gs ↔
      (∃ v, Blank v ∧ text.drop i = v ++ text.drop j ∧ j = i + v.length) ∧ gs = [] := by
  rw [captures_iff_of_countGroups? rfl, matches_spaces_iff]

/-- The group of a keyword matches what is known as a connective. -/
lemma captures_keywordGroup_iff {gs : List Capture} :
    Captures text.toArray keywordGroup i j gs ↔
      ∃ word op, Keyword word op ∧ text.drop i = word ++ text.drop j ∧ j = i + word.length ∧
        gs = [(1, i, j)] := by
  have hand : Connective.and.name.toList = ['a', 'n', 'd'] := rfl
  have hor : Connective.or.name.toList = ['o', 'r'] := rfl
  have hbody {hs : List Capture} :
      Captures text.toArray (alt (letters ['a', 'n', 'd']) (letters ['o', 'r'])) i j hs ↔
        (∃ word op, Keyword word op ∧ text.drop i = word ++ text.drop j ∧ j = i + word.length) ∧
          hs = [] := by
    rw [captures_iff_of_countGroups? rfl, Matches, matches_letters_iff (List.all_eq_true.mp rfl),
      matches_letters_iff (List.all_eq_true.mp rfl)]
    refine and_congr_left' ?_
    constructor
    · rintro (⟨word, hword, hmatch⟩ | ⟨word, hword, hmatch⟩)
      · exact ⟨word, .and, hword.trans hand.symm, hmatch⟩
      · exact ⟨word, .or, hword.trans hor.symm, hmatch⟩
    · rintro ⟨word, op, hword, hmatch⟩
      cases op with
      | and => exact .inl ⟨word, hword.trans hand, hmatch⟩
      | or => exact .inr ⟨word, hword.trans hor, hmatch⟩
  rw [keywordGroup, Captures]
  constructor
  · rintro ⟨hs, hmatch, rfl⟩
    obtain ⟨⟨word, op, hk, htext, hj⟩, rfl⟩ := hbody.mp hmatch
    exact ⟨word, op, hk, htext, hj, rfl⟩
  · rintro ⟨word, op, hk, htext, hj, rfl⟩
    exact ⟨[], hbody.mpr ⟨⟨word, op, hk, htext, hj⟩, rfl⟩, rfl⟩

lemma holdsAt_keyword {v word : List Char} {op : Connective} (hk : Keyword word op) :
    (Assertion.word .edge false).holdsAt (v ++ (word ++ after)).toArray (v.length + word.length) =
      true ↔ ∀ c ∈ after.head?, Unicode.isWord c = false := by
  obtain ⟨init, c, rfl⟩ := (List.eq_nil_or_concat word).resolve_left (keyword_ne_nil hk)
  have hc := isWord_of_keyword hk c (by simp)
  have htext : v ++ (init.concat c ++ after) = (v ++ init) ++ c :: after := by simp
  have hlength : v.length + (init.concat c).length = (v ++ init).length + 1 := by
    simp [Nat.add_assoc]
  rw [htext, hlength]
  exact holdsAt_edge (v ++ init) hc

/-- A match of the expression is a keyword that ends in front of no word character, with white space
on both sides, and its group is the keyword. -/
lemma captures_keyword_iff {gs : List Capture} :
    Captures text.toArray keyword 0 j gs ↔
      ∃ v word after w op, text = v ++ (word ++ after) ∧ Blank v ∧ Keyword word op ∧
        (∀ c ∈ after.head?, Unicode.isWord c = false) ∧ Blank w ∧ after = w ++ text.drop j ∧
        j = v.length + word.length + w.length ∧
        gs = [(1, v.length, v.length + word.length)] := by
  simp only [keyword, sequence, Captures]
  constructor
  · rintro ⟨_, _, _, ⟨-, rfl, rfl⟩, ⟨_, _, _, hbefore, ⟨_, _, _, hgroup,
      ⟨_, _, _, ⟨hholds, rfl, rfl⟩, hbehind, rfl⟩, rfl⟩, rfl⟩, rfl⟩
    obtain ⟨⟨v, hv, htext, rfl⟩, rfl⟩ := captures_spaces_iff.mp hbefore
    obtain ⟨word, op, hk, hrest, rfl, rfl⟩ := captures_keywordGroup_iff.mp hgroup
    obtain ⟨⟨w, hw, hafter, rfl⟩, rfl⟩ := captures_spaces_iff.mp hbehind
    simp only [Nat.zero_add, List.drop_zero] at *
    rw [hrest] at htext
    rw [htext, holdsAt_keyword hk] at hholds
    exact ⟨v, word, _, w, op, htext, hv, hk, hholds, hw, hafter, rfl, rfl⟩
  · rintro ⟨v, word, after, w, op, htext, hv, hk, hend, hw, hafter, rfl, rfl⟩
    have hword : text.drop v.length = word ++ after := by
      rw [htext, List.drop_left]
    have hrest : text.drop (v.length + word.length) = after := by
      rw [← List.drop_drop, hword, List.drop_left]
    have hbefore : Captures text.toArray spaces 0 v.length [] := by
      refine captures_spaces_iff.mpr ⟨⟨v, hv, ?_, (Nat.zero_add _).symm⟩, rfl⟩
      rw [hword, List.drop_zero, htext]
    have hgroup : Captures text.toArray keywordGroup v.length (v.length + word.length)
        [(1, v.length, v.length + word.length)] := by
      refine captures_keywordGroup_iff.mpr ⟨word, op, hk, ?_, rfl, rfl⟩
      rw [hword, hrest]
    have hholds : (Assertion.word .edge false).holdsAt text.toArray (v.length + word.length) =
        true := by
      rw [htext, holdsAt_keyword hk]
      exact hend
    have hbehind : Captures text.toArray spaces (v.length + word.length)
        (v.length + word.length + w.length) [] :=
      captures_spaces_iff.mpr ⟨⟨w, hw, hrest.trans hafter, rfl⟩, rfl⟩
    exact ⟨0, [], _, ⟨rfl, rfl, rfl⟩, ⟨_, [], _, hbefore, ⟨_, _, _, hgroup,
      ⟨_, [], _, ⟨hholds, rfl, rfl⟩, hbehind, rfl⟩, rfl⟩, rfl⟩, rfl⟩

/-- Every match of the expression is known as a connective, and is read as a keyword. -/
theorem keyword?_of_captures {gs : List Capture} (h : Captures text.toArray keyword 0 j gs) :
    ∃ v word after op, text = v ++ word ++ after ∧ gs = [(1, v.length, (v ++ word).length)] ∧
      Connective.ofKeyword? word = some op ∧ keyword? text = some (op, trimStart after) := by
  obtain ⟨v, word, after, w, op, rfl, hv, hk, hend, -, -, -, rfl⟩ := captures_keyword_iff.mp h
  rw [← List.append_assoc]
  refine ⟨v, word, after, op, rfl, by rw [List.length_append], ofKeyword?_eq_some_iff.mpr hk, ?_⟩
  exact keyword?_append hv hk hend

theorem exists_captures_of_keyword? {op : Connective} {rest : List Char}
    (h : keyword? text = some (op, rest)) :
    ∃ j gs, Captures text.toArray keyword 0 j gs ∧ text.drop j = rest := by
  obtain ⟨v, word, w, rfl, hv, hk, hw, hend⟩ := keyword_of_keyword? h
  have hrest : (v ++ word ++ w ++ rest).drop (v.length + word.length + w.length) = rest := by
    rw [← List.length_append, ← List.length_append, List.drop_left]
  refine ⟨_, _, captures_keyword_iff.mpr ⟨v, word, w ++ rest, w, op, ?_, hv, hk, hend, hw, ?_, rfl,
    rfl⟩, hrest⟩
  · simp only [List.append_assoc]
  · rw [hrest]

end Keywords

/-! ### Values -/

section Values

/-- A comparator and a value with white space around them. Of the groups, which have no names here,
the first two are the white space and the comparator, the next four are the kinds of values, and the
last is the flag of a pattern. -/
def valueSource : String :=
  "^(\\s*)([:><!=]*)\\s*" ++
  "(?:(\\\x7b\\s*\"\\$oid\"\\s*:\\s*\"[0-9a-fA-F]\x7b24\x7d\"\\s*\\\x7d)" ++
  "|([-*\\w.]+)" ++
  "|(\"[^\"]*\"|'[^']*')" ++
  "|(/(?:\\\\.|[^/\\\\])*/)(i?))" ++
  "\\s*"

def isValueGroup (n : ℕ) : Bool :=
  3 ≤ n && n ≤ 6

set_option maxRecDepth 10000 in
lemma countGroups?_value :
    (read? false valueSource.toList).bind (countGroups? isValueGroup) = some 1 := by
  decide +kernel

/-- In every match of the expression just one of the groups takes part that stand for kinds of
values. -/
theorem countP_captures_value :
    ∃ r, read? false valueSource.toList = some r ∧ ∀ text i j gs, Captures text r i j gs →
      gs.countP (fun g => isValueGroup g.1) = 1 := by
  obtain ⟨r, hr, hcount⟩ := Option.bind_eq_some_iff.mp countGroups?_value
  exact ⟨r, hr, fun text i j gs h => countP_of_countGroups? hcount h⟩

end Values

end Regex

end FilterQuery
