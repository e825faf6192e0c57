import FilterQuery.Proofs.CalendarDays
import Mathlib.Order.Defs.LinearOrder
import Mathlib.Logic.Function.Iterate
import Mathlib.Order.Monotone.Basic

/-!
# Days one after the other

`Day.next` is the day after a day. Going on from one day to the next counts the days, forwards from
the first of January 1970 and backwards towards it, and `Day.number` is the result of this count.
Days are in the order of their numbers.
-/

namespace FilterQuery.Calendar

/-! ### The months of a year -/

lemma total_take_succ (lengths : List Nat) (k : Nat) :
    total (lengths.take (k + 1)) = total (lengths.take k) + lengths.getD k 0 := by
  induction lengths generalizing k with
  | nil => rw [List.take_nil, List.take_nil, List.getD_nil, Nat.add_zero]
  | cons length rest ih =>
    cases k with
    | zero => exact Nat.add_comm length 0
    | succ k =>
      rw [List.take_succ_cons, total_cons, ih k, List.take_succ_cons, total_cons,
        List.getD_cons_succ, Nat.add_assoc]

lemma daysBeforeMonth_succ (y : Int) {m : Nat} (hm : 1 ≤ m) :
    daysBeforeMonth y (m + 1) = daysBeforeMonth y m + monthLength y m := by
  have hsucc := total_take_succ (monthLengths y) (m - 1)
  rw [Nat.sub_add_cancel hm] at hsucc
  rw [monthLength, if_neg (by omega)]
  exact hsucc

lemma daysBeforeMonth_last (y : Int) :
    daysBeforeMonth y 12 + monthLength y 12 = yearLength y := by
  rw [← daysBeforeMonth_succ y (by decide)]
  exact total_monthLengths y

lemma daysBeforeMonth_mono (y : Int) {m k : Nat} (hm : 1 ≤ m) (h : m ≤ k) :
    daysBeforeMonth y m ≤ daysBeforeMonth y k := by
  induction k, h using Nat.le_induction with
  | base => exact Nat.le_refl _
  | succ k hk ih =>
    rw [daysBeforeMonth_succ y (hm.trans hk)]
    exact ih.trans (Nat.le_add_right _ _)

lemma monthLength_pos (y : Int) {m : Nat} (hm : 1 ≤ m) (hlast : m ≤ 12) :
    1 ≤ monthLength y m := by
  have hindex : m - 1 < (monthLengths y).length := by
    change m - 1 < 12
    omega
  have hall : ∀ length ∈ monthLengths y, 1 ≤ length := by
    unfold monthLengths
    split_ifs <;> decide
  rw [monthLength, if_neg (by omega), List.getD_eq_getElem?_getD,
    List.getElem?_eq_getElem hindex, Option.getD_some]
  exact hall _ (List.getElem_mem hindex)

lemma daysBeforeYear_mono {y z : Int} (h : y ≤ z) : daysBeforeYear y ≤ daysBeforeYear z := by
  unfold daysBeforeYear
  omega

namespace Day

/-- The day after a day. -/
def next (d : Day) : Day :=
  if d.day < monthLength d.year d.month then ⟨d.year, d.month, d.day + 1⟩
  else if d.month < 12 then ⟨d.year, d.month + 1, 1⟩
  else ⟨d.year + 1, 1, 1⟩

/-- The day from which the others are counted. -/
def first : Day := ⟨1970, 1, 1⟩

/-- Going on from the first day `n` times leads to the day `d`, or, if `n` is negative, going on
from `d` as many times leads to the first day. -/
def CountedAs (d : Day) (n : Int) : Prop :=
  next^[n.toNat] first = next^[(-n).toNat] d

lemma exists?_iff {d : Day} :
    d.exists? = true ↔ 1 ≤ d.day ∧ d.day ≤ monthLength d.year d.month := by
  simp only [exists?, Bool.and_eq_true, decide_eq_true_eq]

lemma exists?_first : first.exists? = true := rfl

lemma number_first : first.number = 0 := rfl

section Existing

variable {d e : Day} (hd : d.exists? = true)

include hd

lemma month_bounds : 1 ≤ d.month ∧ d.month ≤ 12 := by
  have hday := exists?_iff.mp hd
  unfold monthLength at hday
  split_ifs at hday with hzero
  · omega
  · refine ⟨by omega, ?_⟩
    by_contra hlast
    have hnone : (monthLengths d.year)[d.month - 1]? = none := by
      apply List.getElem?_eq_none
      change 12 ≤ d.month - 1
      omega
    rw [List.getD_eq_getElem?_getD, hnone, Option.getD_none] at hday
    omega

/-! ### The next day -/

lemma exists?_next : d.next.exists? = true := by
  have hmonth := month_bounds hd
  unfold next
  split_ifs with hday hlast
  · exact exists?_iff.mpr ⟨Nat.le_add_left 1 d.day, hday⟩
  · exact exists?_iff.mpr ⟨Nat.le_refl 1, monthLength_pos _ (Nat.le_add_left 1 _) hlast⟩
  · have hjanuary := monthLength_pos (d.year + 1) (Nat.le_refl 1) (Nat.le_add_left 1 11)
    exact exists?_iff.mpr ⟨Nat.le_refl 1, hjanuary⟩

lemma number_next : d.next.number = d.number + 1 := by
  have hday := exists?_iff.mp hd
  have hmonth := month_bounds hd
  unfold next
  split_ifs with hmore hlast
  · simp only [number]
    omega
  · have hbefore := daysBeforeMonth_succ d.year hmonth.1
    simp only [number]
    omega
  · -- The last day of December is the last day of the year.
    have hdecember : d.month = 12 := by omega
    have hyear := daysBeforeMonth_last d.year
    have hsucc := daysBeforeYear_succ d.year
    have hjanuary : daysBeforeMonth (d.year + 1) 1 = 0 := rfl
    rw [hdecember] at hday hmore
    simp only [number, hdecember]
    omega

lemma exists?_iterate (k : Nat) : (next^[k] d).exists? = true := by
  induction k with
  | zero => exact hd
  | succ k ih =>
    rw [Function.iterate_succ_apply']
    exact exists?_next ih

lemma number_iterate (k : Nat) : (next^[k] d).number = d.number + k := by
  induction k with
  | zero => exact (Int.add_zero _).symm
  | succ k ih =>
    rw [Function.iterate_succ_apply', number_next (exists?_iterate hd k), ih]
    omega

/-! ### The order of days -/

lemma number_bounds :
    daysBeforeYear d.year + daysBeforeMonth d.year d.month ≤ d.number + epoch ∧
      d.number + epoch <
        daysBeforeYear d.year + daysBeforeMonth d.year d.month + monthLength d.year d.month := by
  have hday := exists?_iff.mp hd
  unfold number
  omega

variable (he : e.exists? = true)

include he

lemma number_lt_of_year (hyear : d.year < e.year) : d.number < e.number := by
  have hmonth := month_bounds hd
  have hend := (number_bounds hd).2
  have hstart := (number_bounds he).1
  have hlength : daysBeforeMonth d.year d.month + monthLength d.year d.month ≤
      yearLength d.year := by
    rw [← daysBeforeMonth_succ _ hmonth.1, ← daysBeforeMonth_last,
      ← daysBeforeMonth_succ _ (by decide)]
    exact daysBeforeMonth_mono _ (Nat.le_add_left 1 _) (by omega)
  have hsucc := daysBeforeYear_succ d.year
  have hmono := daysBeforeYear_mono (Int.add_one_le_of_lt hyear)
  omega

lemma number_lt_of_month (hyear : d.year = e.year) (hmonth : d.month < e.month) :
    d.number < e.number := by
  have hend := (number_bounds hd).2
  have hstart := (number_bounds he).1
  have hmono := daysBeforeMonth_mono d.year (m := d.month + 1) (Nat.le_add_left 1 _) hmonth
  rw [daysBeforeMonth_succ _ (month_bounds hd).1] at hmono
  rw [← hyear] at hstart
  omega

/-- Numbers are in the order of the years, then of the months, then of the days. -/
theorem number_lt_iff :
    d.number < e.number ↔ d.year < e.year ∨ d.year = e.year ∧
      (d.month < e.month ∨ d.month = e.month ∧ d.day < e.day) := by
  rcases lt_trichotomy d.year e.year with hyear | hyear | hyear
  · have hlt := number_lt_of_year hd he hyear
    omega
  · rcases lt_trichotomy d.month e.month with hmonth | hmonth | hmonth
    · have hlt := number_lt_of_month hd he hyear hmonth
      omega
    · unfold number
      rw [hyear, hmonth]
      omega
    · have hlt := number_lt_of_month he hd hyear.symm hmonth
      omega
  · have hlt := number_lt_of_year he hd hyear
    omega

lemma eq_of_number (h : d.number = e.number) : d = e := by
  have hlt := number_lt_iff hd he
  have hgt := number_lt_iff he hd
  obtain ⟨hyear, hmonth, hday⟩ : d.year = e.year ∧ d.month = e.month ∧ d.day = e.day := by omega
  cases d
  cases e
  simp only [mk.injEq]
  exact ⟨hyear, hmonth, hday⟩

end Existing

/-! ### Counting days -/

/-- The count of a day that exists is its number. -/
theorem countedAs_iff {d : Day} (hd : d.exists? = true) (n : Int) :
    d.CountedAs n ↔ d.number = n := by
  have hforwards := number_iterate exists?_first n.toNat
  have hbackwards := number_iterate hd (-n).toNat
  rw [number_first] at hforwards
  constructor
  · intro h
    rw [CountedAs] at h
    rw [h] at hforwards
    omega
  · intro h
    apply eq_of_number (exists?_iterate exists?_first _) (exists?_iterate hd _)
    omega

lemma ofNumber_number {d : Day} (hd : d.exists? = true) : ofNumber d.number = d := by
  obtain ⟨hexists, hnumber, -⟩ := ofNumber_spec d.number
  exact eq_of_number hexists hd hnumber

end Day

end FilterQuery.Calendar
