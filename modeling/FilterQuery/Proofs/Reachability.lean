import FilterQuery.Regex.Reach
import Mathlib.Tactic.Lemma
import Mathlib.Tactic.SplitIfs

/-!
# What regular expressions match

`Regex.Matches` says which part of a text an expression matches, one constructor of expressions at a
time and without any bound on repetitions. The positions that the search reaches are exactly those
where such a match ends. This has to be argued for repetitions: the search makes no more rounds than
there are positions, and a round that stays in place can be left out or made again.
-/

namespace FilterQuery.Regex

/-- A number of steps, one after the other. -/
inductive Steps (R : Nat → Nat → Prop) : Nat → Nat → Nat → Prop where
  | zero {i : Nat} : Steps R 0 i i
  | succ {n i k j : Nat} : R i k → Steps R n k j → Steps R (n + 1) i j

/-- The expression matches the part of a text between two positions. An upper bound counts as far as
it is above the lower one. -/
def Matches (text : Array Char) : Regex → Nat → Nat → Prop
  | empty, i, j => i = j
  | set s _, i, j => (∃ c, text[i]? = some c ∧ s.contains c = true) ∧ j = i + 1
  | assertion a, i, j => a.holdsAt text i = true ∧ i = j
  | seq r s, i, j => ∃ k, Matches text r i k ∧ Matches text s k j
  | alt r s, i, j => Matches text r i j ∨ Matches text s i j
  | group _ r, i, j => Matches text r i j
  | repeated r least most _, i, j =>
    ∃ n, least ≤ n ∧ (∀ m ∈ most, n ≤ max least m) ∧ Steps (Matches text r) n i j

/-! ### Steps -/

section Steps

variable {R : Nat → Nat → Prop} {m n i j k : Nat}

lemma Steps.mem_of_closed {seen : List Nat} (hclosed : ∀ i ∈ seen, ∀ j, R i j → j ∈ seen)
    (h : Steps R n i j) (hi : i ∈ seen) : j ∈ seen := by
  induction h with
  | zero => exact hi
  | succ hstep _ ih => exact ih (hclosed _ hi _ hstep)

lemma steps_add : Steps R (m + n) i j ↔ ∃ k, Steps R m i k ∧ Steps R n k j := by
  induction m generalizing i with
  | zero =>
    rw [Nat.zero_add]
    constructor
    · exact fun h => ⟨i, .zero, h⟩
    · rintro ⟨k, ⟨⟩, h⟩
      exact h
  | succ m ih =>
    rw [Nat.succ_add]
    constructor
    · rintro (_ | ⟨hstep, hrest⟩)
      obtain ⟨k, hm, hn⟩ := ih.mp hrest
      exact ⟨k, .succ hstep hm, hn⟩
    · rintro ⟨k, hm, hn⟩
      cases hm with
      | succ hstep hrest => exact .succ hstep (ih.mpr ⟨k, hrest, hn⟩)

/-- Steps that go forward, and within a text as far as they move at all. -/
structure Forward (size : Nat) (R : Nat → Nat → Prop) : Prop where
  le : ∀ {i j}, R i j → i ≤ j
  le_size : ∀ {i j}, R i j → i < j → j ≤ size

variable {size : Nat} (hR : Forward size R)

include hR

lemma Steps.forward (h : Steps R n i j) : i ≤ j ∧ (i < j → j ≤ size) := by
  induction h with
  | zero => exact ⟨Nat.le_refl _, fun h => absurd h (Nat.lt_irrefl _)⟩
  | @succ n i k j hstep _ ih =>
    have hle := hR.le hstep
    have hsize := hR.le_size hstep
    omega

/-- Of more steps than there are places to go, one stays in place and can be left out. -/
lemma Steps.shrink (h : Steps R (n + 1) i j) (hn : j ≤ i + n) : Steps R n i j := by
  induction n generalizing i with
  | zero =>
    cases h with
    | succ hstep hrest =>
      cases hrest
      have heq : j = i := Nat.le_antisymm hn (hR.le hstep)
      rw [heq]
      exact .zero
  | succ n ih =>
    cases h with
    | @succ _ _ k _ hstep hrest =>
      have hle := hR.le hstep
      by_cases hk : k = i
      · rwa [hk] at hrest
      · exact .succ hstep (ih hrest (by omega))

/-- The step that stays in place can also be made once more. -/
lemma Steps.grow (h : Steps R n i j) (hn : j < i + n) : Steps R (n + 1) i j := by
  induction n generalizing i with
  | zero =>
    have hle := (h.forward hR).1
    omega
  | succ n ih =>
    cases h with
    | @succ _ _ k _ hstep hrest =>
      have hle := hR.le hstep
      by_cases hk : k = i
      · rw [hk] at hstep
        exact .succ hstep (.succ (hk ▸ hstep) hrest)
      · exact .succ hstep (ih hrest (by omega))

lemma Steps.of_le (h : Steps R n i j) (hm : m ≤ n) (hj : j ≤ i + m) : Steps R m i j := by
  induction n with
  | zero => rwa [Nat.le_zero.mp hm]
  | succ n ih =>
    by_cases heq : m = n + 1
    · rwa [heq]
    · exact ih (h.shrink hR (by omega)) (by omega)

lemma Steps.of_ge (h : Steps R n i j) (hm : n ≤ m) (hj : j < i + n) : Steps R m i j := by
  induction m with
  | zero => rwa [← Nat.le_zero.mp hm]
  | succ m ih =>
    by_cases heq : n = m + 1
    · rwa [← heq]
    · exact (ih (by omega)).grow hR (by omega)

end Steps

/-! ### Rounds of a search -/

section Rounds

variable {R : Nat → Nat → Prop} {step : List Nat → List Nat}
  (hstep : ∀ ps j, j ∈ step ps ↔ ∃ i ∈ ps, R i j)

include hstep

lemma mem_rounds {n j : Nat} {ps : List Nat} :
    j ∈ rounds step n ps ↔ ∃ i ∈ ps, Steps R n i j := by
  induction n generalizing ps with
  | zero =>
    constructor
    · exact fun h => ⟨j, h, .zero⟩
    · rintro ⟨i, hi, ⟨⟩⟩
      exact hi
  | succ n ih =>
    rw [rounds, ih]
    constructor
    · rintro ⟨k, hk, hrest⟩
      obtain ⟨i, hi, hik⟩ := (hstep ps k).mp hk
      exact ⟨i, hi, .succ hik hrest⟩
    · rintro ⟨i, hi, hsteps⟩
      cases hsteps with
      | succ hik hrest => exact ⟨_, (hstep ps _).mpr ⟨i, hi, hik⟩, hrest⟩

lemma mem_next {k : Nat} {seen new : List Nat} :
    k ∈ (step new).eraseDups.filter (fun i => !seen.contains i) ↔
      (∃ i ∈ new, R i k) ∧ k ∉ seen := by
  simp [hstep]

/-- Only from the positions of the last round can a step lead to positions not seen so far. -/
lemma mem_reachWithin {n j : Nat} {seen new : List Nat} (hnew : ∀ i ∈ new, i ∈ seen)
    (hold : ∀ i ∈ seen, i ∉ new → ∀ j, R i j → j ∈ seen) :
    j ∈ reachWithin step n seen new ↔ ∃ i ∈ seen, ∃ k ≤ n, Steps R k i j := by
  induction n generalizing seen new with
  | zero =>
    constructor
    · exact fun h => ⟨j, h, 0, Nat.le_refl _, .zero⟩
    · rintro ⟨i, hi, k, hk, hsteps⟩
      obtain rfl := Nat.le_zero.mp hk
      cases hsteps
      exact hi
  | succ n ih =>
    generalize hnext : (step new).eraseDups.filter (fun i => !seen.contains i) = next
    have hmem : ∀ k, k ∈ next ↔ (∃ i ∈ new, R i k) ∧ k ∉ seen := fun k => by
      rw [← hnext, mem_next hstep]
    have hseen : ∀ i ∈ seen, ∀ k, R i k → k ∈ seen ++ next := by
      intro i hi k hik
      by_cases hk : k ∈ seen
      · exact List.mem_append_left _ hk
      · by_cases hin : i ∈ new
        · exact List.mem_append_right _ ((hmem k).mpr ⟨⟨i, hin, hik⟩, hk⟩)
        · exact absurd (hold i hi hin k hik) hk
    rw [reachWithin, hnext]
    by_cases hnil : next = []
    · -- No step leads out of what was seen, so that further rounds find nothing either.
      rw [if_pos hnil]
      rw [hnil, List.append_nil] at hseen
      constructor
      · exact fun h => ⟨j, h, 0, Nat.zero_le _, .zero⟩
      · rintro ⟨i, hi, k, -, hsteps⟩
        exact hsteps.mem_of_closed hseen hi
    · rw [if_neg hnil, ih (fun _ => List.mem_append_right _) ?_]
      · constructor
        · rintro ⟨i, hi, k, hk, hsteps⟩
          rcases List.mem_append.mp hi with hi | hi
          · exact ⟨i, hi, k, Nat.le_succ_of_le hk, hsteps⟩
          · obtain ⟨⟨i', hi', hstep'⟩, -⟩ := (hmem i).mp hi
            exact ⟨i', hnew i' hi', k + 1, Nat.succ_le_succ hk, .succ hstep' hsteps⟩
        · rintro ⟨i, hi, _, hk, hsteps⟩
          cases hsteps with
          | zero => exact ⟨_, List.mem_append_left _ hi, 0, Nat.zero_le _, .zero⟩
          | succ hik hrest =>
            exact ⟨_, hseen i hi _ hik, _, Nat.le_of_succ_le_succ hk, hrest⟩
      · intro i hi hout k hik
        exact hseen i ((List.mem_append.mp hi).resolve_right hout) k hik

end Rounds

/-! ### Matches -/

lemma matches_sequence_cons {text : Array Char} {r : Regex} {items : List Regex}
    {i j : Nat} :
    Matches text (sequence (r :: items)) i j ↔
      ∃ k, Matches text r i k ∧ Matches text (sequence items) k j := by
  cases items with
  | nil => simp [sequence, Matches]
  | cons s items => rfl

lemma Matches.forward {text : Array Char} (r : Regex) : Forward text.size (Matches text r) := by
  induction r with
  | empty => exact ⟨Nat.le_of_eq, fun h hlt => absurd h (Nat.ne_of_lt hlt)⟩
  | set s n =>
    constructor
    · rintro i j ⟨-, rfl⟩
      exact Nat.le_succ i
    · rintro i j ⟨⟨c, hc, -⟩, rfl⟩ -
      exact (Array.getElem?_eq_some_iff.mp hc).1
  | assertion a => exact ⟨fun h => Nat.le_of_eq h.2, fun h hlt => absurd h.2 (Nat.ne_of_lt hlt)⟩
  | seq r s ihr ihs =>
    constructor
    · rintro i j ⟨k, hr, hs⟩
      exact Nat.le_trans (ihr.le hr) (ihs.le hs)
    · rintro i j ⟨k, hr, hs⟩ hlt
      rcases Nat.lt_or_ge k j with hkj | hjk
      · exact ihs.le_size hs hkj
      · obtain rfl := Nat.le_antisymm hjk (ihs.le hs)
        exact ihr.le_size hr hlt
  | alt r s ihr ihs =>
    constructor
    · exact fun h => h.elim ihr.le ihs.le
    · exact fun h hlt => h.elim (ihr.le_size · hlt) (ihs.le_size · hlt)
  | group _ r ih => exact ⟨ih.le, ih.le_size⟩
  | repeated r least most greedy ih =>
    constructor
    · rintro i j ⟨n, -, -, hsteps⟩
      exact (hsteps.forward ih).1
    · rintro i j ⟨n, -, -, hsteps⟩ hlt
      exact (hsteps.forward ih).2 hlt

/-- The rounds that a search makes are enough. A repetition of more rounds than there are positions
can do with fewer, and one that has to be made more often can stay in place. -/
lemma exists_steps_iff {R : Nat → Nat → Prop} {size i j least : Nat} {most : Option Nat}
    (hR : Forward size R) :
    (∃ n, least ≤ n ∧ (∀ m ∈ most, n ≤ max least m) ∧ Steps R n i j) ↔
      ∃ k ≤ most.elim (size + 1) fun m => min (m - least) (size + 1),
        Steps R (min least (size + 1) + k) i j := by
  generalize hmore : (most.elim (size + 1) fun m => min (m - least) (size + 1)) = more
  constructor
  · rintro ⟨n, hleast, hmost, hsteps⟩
    have hfar := hsteps.forward hR
    rcases Nat.le_total n (min least (size + 1) + more) with hn | hn
    · refine ⟨n - min least (size + 1), by omega, ?_⟩
      rwa [Nat.add_sub_cancel' (by omega)]
    · refine ⟨more, Nat.le_refl _, ?_⟩
      by_cases heq : n = min least (size + 1) + more
      · rwa [← heq]
      · -- The repetition keeps its own bound, so it is the number of positions that was exceeded.
        have hroom : size < min least (size + 1) + more := by
          cases most with
          | none => simp only [Option.elim_none] at hmore; omega
          | some m =>
            have hnm := hmost m rfl
            simp only [Option.elim_some] at hmore
            omega
        exact hsteps.of_le hR hn (by omega)
  · rintro ⟨k, hk, hsteps⟩
    have hfar := hsteps.forward hR
    refine ⟨least + k, Nat.le_add_right _ _, ?_, ?_⟩
    · rintro m rfl
      simp only [Option.elim_some] at hmore
      omega
    · rcases Nat.le_total least (size + 1) with hle | hge
      · rwa [Nat.min_eq_left hle] at hsteps
      · rw [Nat.min_eq_right hge] at hsteps
        exact hsteps.of_ge hR (by omega) (by omega)

lemma mem_joinPositions {j : Nat} {ps qs : List Nat} :
    j ∈ joinPositions ps qs ↔ j ∈ ps ∨ j ∈ qs := by
  by_cases hj : j ∈ ps <;> simp [joinPositions, hj]

/-- The search reaches the positions where a match ends that starts at one of the given ones. -/
theorem mem_reach_iff {text : Array Char} {r : Regex} {ps : List Nat} {j : Nat} :
    j ∈ reach text r ps ↔ ∃ i ∈ ps, Matches text r i j := by
  induction r generalizing ps j with
  | empty => simp [reach, Matches]
  | set s n =>
    simp only [reach, Matches, List.mem_filterMap, Option.any_eq_true,
      Option.ite_none_right_eq_some, Option.some.injEq]
    simp only [eq_comm (b := j)]
  | assertion a =>
    simp only [reach, Matches, List.mem_filter]
    constructor
    · exact fun h => ⟨j, h.1, h.2, rfl⟩
    · rintro ⟨i, hi, ha, rfl⟩
      exact ⟨hi, ha⟩
  | seq r s ihr ihs =>
    simp only [reach, Matches, ihs, ihr]
    constructor
    · rintro ⟨k, ⟨i, hi, hr⟩, hs⟩
      exact ⟨i, hi, k, hr, hs⟩
    · rintro ⟨i, hi, k, hr, hs⟩
      exact ⟨k, ⟨i, hi, hr⟩, hs⟩
  | alt r s ihr ihs =>
    simp only [reach, Matches, mem_joinPositions, ihr, ihs, and_or_left, exists_or]
  | group index r ih => exact ih
  | repeated r least most greedy ih =>
    have hstep : ∀ ps j, j ∈ reach text r ps ↔ ∃ i ∈ ps, Matches text r i j := fun _ _ => ih
    simp only [reach, Matches, exists_steps_iff (Matches.forward r)]
    rw [mem_reachWithin hstep (fun _ h => h) (fun _ h hn => absurd h hn)]
    simp only [List.mem_eraseDups, mem_rounds hstep, steps_add]
    constructor
    · rintro ⟨m, ⟨i, hi, hleast⟩, k, hk, hrest⟩
      cases most <;> exact ⟨i, hi, k, hk, m, hleast, hrest⟩
    · rintro ⟨i, hi, k, hk, m, hleast, hrest⟩
      cases most <;> exact ⟨m, ⟨i, hi, hleast⟩, k, hk, hrest⟩

/-- A text has a match where one of its parts is matched. -/
theorem isMatch_iff {text : List Char} {r : Regex} :
    r.isMatch text = true ↔ ∃ i ≤ text.length, ∃ j, Matches text.toArray r i j := by
  rw [isMatch, bne_iff_ne]
  constructor
  · intro hne
    obtain ⟨j, hj⟩ := List.exists_mem_of_ne_nil _ hne
    obtain ⟨i, hi, hm⟩ := mem_reach_iff.mp hj
    exact ⟨i, Nat.le_of_lt_succ (List.mem_range.mp hi), j, hm⟩
  · rintro ⟨i, hi, j, hm⟩
    have hstart : i ∈ List.range (text.length + 1) := List.mem_range.mpr (Nat.lt_succ_of_le hi)
    exact List.ne_nil_of_mem (mem_reach_iff.mpr ⟨i, hstart, hm⟩)

/-! ### Sets of characters -/

section Sets

variable {text : List Char} {i j : Nat}

lemma getElem?_eq_some_iff_drop {c : Char} :
    text[i]? = some c ↔ text.drop i = c :: text.drop (i + 1) := by
  constructor
  · intro h
    obtain ⟨hi, rfl⟩ := List.getElem?_eq_some_iff.mp h
    exact List.drop_eq_getElem_cons hi
  · intro h
    rw [← List.head?_drop, h, List.head?_cons]

lemma matches_set_iff {s : CharSet} {m : Nat} :
    Matches text.toArray (set s m) i j ↔
      (∃ c, s.contains c = true ∧ text.drop i = c :: text.drop j) ∧ j = i + 1 := by
  rw [Matches, List.getElem?_toArray]
  refine and_congr_left ?_
  rintro rfl
  simp only [getElem?_eq_some_iff_drop, and_comm]

/-- The rounds of a repeated set are a part of the text, character by character. -/
lemma steps_set_iff {s : CharSet} {m n : Nat} :
    Steps (Matches text.toArray (set s m)) n i j ↔
      (∃ u, u.length = n ∧ (∀ c ∈ u, s.contains c = true) ∧ text.drop i = u ++ text.drop j) ∧
        j = i + n := by
  induction n generalizing i with
  | zero =>
    constructor
    · rintro ⟨⟩
      exact ⟨⟨[], rfl, List.forall_mem_nil _, rfl⟩, rfl⟩
    · rintro ⟨-, rfl⟩
      exact .zero
  | succ n ih =>
    constructor
    · intro h
      cases h with
      | succ hstep hrest =>
        obtain ⟨⟨c, hc, hi⟩, rfl⟩ := matches_set_iff.mp hstep
        obtain ⟨⟨u, hlength, hu, hj⟩, rfl⟩ := ih.mp hrest
        refine ⟨⟨c :: u, ?_, ?_, ?_⟩, by omega⟩
        · rw [List.length_cons, hlength]
        · exact List.forall_mem_cons.mpr ⟨hc, hu⟩
        · rw [hi, hj, List.cons_append]
    · rintro ⟨⟨u, hlength, hu, hi⟩, rfl⟩
      obtain ⟨c, u, rfl⟩ := List.exists_cons_of_length_eq_add_one hlength
      obtain ⟨hc, hu⟩ := List.forall_mem_cons.mp hu
      have hnext : text.drop (i + 1) = u ++ text.drop (i + (n + 1)) := by
        rw [← List.tail_drop, hi, List.cons_append, List.tail_cons]
      refine .succ (matches_set_iff.mpr ⟨⟨c, hc, ?_⟩, rfl⟩) (ih.mpr ⟨⟨u, ?_, hu, hnext⟩, by omega⟩)
      · rw [hi, hnext, List.cons_append]
      · exact Nat.succ.inj hlength

end Sets

end FilterQuery.Regex
