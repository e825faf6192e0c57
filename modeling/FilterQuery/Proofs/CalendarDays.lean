import FilterQuery.Date.Calendar
import Mathlib.Tactic.Lemma
import Mathlib.Tactic.SplitIfs

/-!
# Days of the calendar

Every number of days is the number of one day that exists. Its year is found because the years fill
up the days without a gap, and its month because the months fill up the year.
-/

namespace FilterQuery.Calendar

/-! ### Years -/

def yearLength (y : Int) : Nat :=
  if isLeap y then 366 else 365

lemma daysBeforeYear_succ (y : Int) : daysBeforeYear (y + 1) = daysBeforeYear y + yearLength y := by
  unfold yearLength daysBeforeYear
  split_ifs with hleap
  · simp only [isLeap, Bool.and_eq_true, Bool.or_eq_true, beq_iff_eq, bne_iff_ne] at hleap
    omega
  · simp only [isLeap, Bool.and_eq_true, Bool.or_eq_true, beq_iff_eq, bne_iff_ne] at hleap
    omega

/-- The calendar repeats after 400 years. -/
lemma daysBeforeYear_add (y c : Int) :
    daysBeforeYear (400 * c + y) = 146097 * c + daysBeforeYear y := by
  unfold daysBeforeYear
  omega

/-- The year that is found for a day has started before its end, and ends after it. -/
lemma yearOf_spec (n : Int) :
    daysBeforeYear (yearOf n) ≤ n ∧ n < daysBeforeYear (yearOf n + 1) := by
  have hcycle : n = 146097 * (n / 146097) + n % 146097 := by omega
  have hlow : 0 ≤ n % 146097 := by omega
  have hhigh : n % 146097 < 146097 := by omega
  -- Whole cycles of 400 years cancel, so only the first cycle is left.
  unfold yearOf
  dsimp only
  generalize n / 146097 = c at *
  generalize n % 146097 = r at *
  rw [Int.add_assoc, daysBeforeYear_add, daysBeforeYear_add, hcycle]
  split_ifs with hstarted
  · unfold daysBeforeYear at *
    omega
  · rw [Int.sub_add_cancel]
    unfold daysBeforeYear at *
    omega

/-! ### Months -/

/-- The days of some months. -/
def total (lengths : List Nat) : Nat :=
  lengths.foldr (· + ·) 0

lemma total_monthLengths (y : Int) : total (monthLengths y) = yearLength y := by
  unfold monthLengths yearLength
  split_ifs <;> rfl

lemma total_cons (length : Nat) (rest : List Nat) :
    total (length :: rest) = length + total rest := rfl

/-- The month that is found for a day of the year is the one that holds it. -/
lemma monthDay_spec (m : Nat) {lengths : List Nat} {n : Nat} (hn : n < total lengths) :
    ∃ i, i < lengths.length ∧ (monthDay m lengths n).1 = m + i ∧
      total (lengths.take i) + (monthDay m lengths n).2 = n + 1 ∧
      1 ≤ (monthDay m lengths n).2 ∧ (monthDay m lengths n).2 ≤ lengths.getD i 0 := by
  induction lengths generalizing m n with
  | nil => cases hn
  | cons length rest ih =>
    rw [total_cons] at hn
    unfold monthDay
    split_ifs with hmonth
    · refine ⟨0, by simp, rfl, ?_, ?_, ?_⟩
      · exact Nat.zero_add _
      · exact Nat.le_add_left 1 n
      · exact hmonth
    · obtain ⟨i, hi, hfst, hsum, hone, hle⟩ := ih (m + 1) (n := n - length) (by omega)
      refine ⟨i + 1, ?_, ?_, ?_, hone, ?_⟩
      · simpa using hi
      · omega
      · rw [List.take_succ_cons, total_cons]
        omega
      · simpa using hle

lemma monthLength_le (y : Int) (m : Nat) : monthLength y m ≤ 31 := by
  have hall : ∀ length ∈ monthLengths y, length ≤ 31 := by
    unfold monthLengths
    split_ifs <;> decide
  unfold monthLength
  split_ifs
  · exact Nat.zero_le _
  · rw [List.getD_eq_getElem?_getD]
    cases hlength : (monthLengths y)[m - 1]? with
    | none => exact Nat.zero_le _
    | some length => exact hall length (List.mem_of_getElem? hlength)

namespace Day

lemma day_bounds {d : Day} (h : d.exists? = true) : 1 ≤ d.day ∧ d.day ≤ 31 := by
  simp only [exists?, Bool.and_eq_true, decide_eq_true_eq] at h
  exact ⟨h.1, Nat.le_trans h.2 (monthLength_le d.year d.month)⟩

variable (n : Int)

/-- The day with a given number exists, and has this number. -/
lemma ofNumber_spec :
    (ofNumber n).exists? = true ∧ (ofNumber n).number = n ∧
      1 ≤ (ofNumber n).month ∧ (ofNumber n).month ≤ 12 := by
  obtain ⟨hstart, hend⟩ := yearOf_spec (n + epoch)
  have hlength : (n + epoch - daysBeforeYear (yearOf (n + epoch))).toNat <
      total (monthLengths (yearOf (n + epoch))) := by
    rw [daysBeforeYear_succ] at hend
    rw [total_monthLengths]
    omega
  obtain ⟨i, hi, hmonth, hsum, hone, hle⟩ := monthDay_spec 1 hlength
  unfold ofNumber
  dsimp only
  generalize yearOf (n + epoch) = y at *
  generalize monthDay 1 (monthLengths y) (n + epoch - daysBeforeYear y).toNat = found at *
  obtain ⟨month, day⟩ := found
  dsimp only at hmonth hsum hone hle ⊢
  have htwelve : (monthLengths y).length = 12 := rfl
  have hprevious : month - 1 = i := by omega
  refine ⟨?_, ?_, ?_, ?_⟩
  · have hlast : day ≤ monthLength y month := by
      rw [monthLength, if_neg (by omega), hprevious]
      exact hle
    simp only [exists?, Bool.and_eq_true, decide_eq_true_eq]
    exact ⟨hone, hlast⟩
  · have hbefore : daysBeforeMonth y month = total ((monthLengths y).take i) := by
      rw [daysBeforeMonth, hprevious]
      rfl
    unfold number
    dsimp only
    rw [hbefore]
    omega
  · omega
  · omega

end Day

end FilterQuery.Calendar
