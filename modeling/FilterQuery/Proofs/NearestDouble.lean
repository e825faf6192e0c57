import FilterQuery.Double.Rounding
import FilterQuery.Proofs.DecimalDigits
import Mathlib.Algebra.Order.Field.Power
import Mathlib.Data.Rat.Cast.Order
import Mathlib.Tactic.FieldSimp
import Mathlib.Tactic.Linarith
import Mathlib.Tactic.Positivity

/-!
# The nearest double

A magnitude stands for all values between the midpoints to its neighbours, and for the midpoints too
if it is even. Rounding takes every value to the magnitude that stands for it, and a decimal is read
as the double of that magnitude, even though decimals of an extreme size are not computed.
-/

namespace FilterQuery.Double

open Text (digits)

/-! ### Units -/

section Units

variable (m : Nat)

lemma scale_mul_add_significand : scale m * binade + significand m = m := by
  unfold significand scale binade
  omega

lemma significand_lt : significand m < 2 * binade := by
  unfold significand scale binade
  omega

lemma binade_le_significand (h : scale m ≠ 0) : binade ≤ significand m := by
  unfold significand scale binade at *
  omega

lemma units_eq : units m = significand m * 2 ^ scale m := rfl

lemma units_succ : units (m + 1) = (significand m + 1) * 2 ^ scale m := by
  by_cases h : significand m + 1 = 2 * binade
  · have hscale : scale (m + 1) = scale m + 1 := by
      unfold significand scale binade at *
      omega
    have hsig : significand (m + 1) = binade := by
      unfold significand scale binade at *
      omega
    rw [units_eq, hscale, hsig, h, Nat.pow_succ]
    ring
  · have hlt := significand_lt m
    have hscale : scale (m + 1) = scale m := by
      unfold significand scale binade at *
      omega
    have hsig : significand (m + 1) = significand m + 1 := by
      unfold significand scale binade at *
      omega
    rw [units_eq, hscale, hsig]

/-- The distance to the number below is that to the number above, except at a power of two. -/
lemma units_pred (hm : 0 < m) (h : scale m = 0 ∨ binade < significand m) :
    units (m - 1) + 2 ^ scale m = units m := by
  have hscale : scale (m - 1) = scale m := by
    unfold significand scale binade at *
    omega
  have hsucc := units_succ (m - 1)
  rw [Nat.sub_add_cancel hm, Nat.add_mul, Nat.one_mul, ← units_eq, hscale] at hsucc
  exact hsucc.symm

/-- Below a power of two the numbers lie twice as close. -/
lemma units_pred_of_power {s : Nat} (hs : scale m = s + 1) (h : significand m = binade) :
    units (m - 1) + 2 ^ s = units m := by
  have hm := scale_mul_add_significand m
  have hscale : scale (m - 1) = s := by
    unfold significand scale binade at *
    omega
  have hsucc := units_succ (m - 1)
  have hpos : 0 < m := by
    unfold binade at *
    omega
  rw [Nat.sub_add_cancel hpos, Nat.add_mul, Nat.one_mul, ← units_eq, hscale] at hsucc
  exact hsucc.symm

lemma units_lt_units_succ : units m < units (m + 1) := by
  rw [units_succ, units_eq]
  exact Nat.mul_lt_mul_of_pos_right (Nat.lt_succ_self _) (Nat.two_pow_pos _)

lemma units_pos (hm : 0 < m) : 0 < units m := by
  have h := units_lt_units_succ (m - 1)
  rw [Nat.sub_add_cancel hm] at h
  omega

lemma scale_le_of_finite (hm : m < infinityBits) : scale m ≤ 2045 := by
  unfold scale binade infinityBits at *
  omega

lemma units_succ_le {s : Nat} (hs : scale m ≤ s) : units (m + 1) ≤ 2 ^ (53 + s) := by
  have hsig : significand m + 1 ≤ 2 ^ 53 := significand_lt m
  rw [units_succ, Nat.pow_add]
  exact Nat.mul_le_mul hsig (Nat.pow_le_pow_right Nat.two_pos hs)

end Units

/-! ### Rounding -/

lemma roundHalfEven_eq {num den g : Nat} (hden : 0 < den)
    (hlow : 2 * (g * den) ≤ 2 * num + den) (hhigh : 2 * num ≤ 2 * (g * den) + den)
    (hodd : g % 2 = 1 → 2 * (g * den) < 2 * num + den ∧ 2 * num < 2 * (g * den) + den) :
    roundHalfEven num den = g := by
  have hnum : num / den * den + num % den = num := by
    rw [Nat.mul_comm]
    exact Nat.div_add_mod num den
  have hr := Nat.mod_lt num hden
  unfold roundHalfEven
  dsimp only
  generalize num / den = q at *
  generalize num % den = r at *
  -- The quotient is `g`, or one less if the remainder is at least half of the denominator.
  have hle : q ≤ g := by
    by_contra hlt
    have hmul := Nat.mul_le_mul_right den (Nat.lt_of_not_le hlt)
    rw [Nat.succ_mul] at hmul
    omega
  have hge : g ≤ q + 1 := by
    by_contra hlt
    have hmul := Nat.mul_le_mul_right den (Nat.lt_of_not_le hlt)
    rw [Nat.succ_mul, Nat.succ_mul] at hmul
    omega
  obtain rfl | rfl : g = q ∨ g = q + 1 := by omega
  · split_ifs <;> omega
  · have hmul := Nat.add_mul q 1 den
    rw [Nat.one_mul] at hmul
    split_ifs <;> omega

/-- The number of low bits that rounding drops. -/
lemma log2_div_sub {num den s : Nat} (hden : 0 < den) (hlow : s = 0 ∨ binade * 2 ^ s * den ≤ num)
    (hhigh : num < 2 * binade * 2 ^ s * den) : (num / den).log2 - 52 = s := by
  have hlt : num / den < 2 ^ (53 + s) := by
    rw [Nat.div_lt_iff_lt_mul hden, Nat.pow_add]
    exact hhigh
  by_cases hzero : num / den = 0
  · rw [hzero, Nat.log2_zero]
    obtain h | h := hlow
    · rw [h]
    · have hpos := Nat.le_div_iff_mul_le hden |>.mpr h
      have := Nat.mul_pos (show 0 < binade by decide) (Nat.two_pow_pos s)
      omega
  · have hlog := (Nat.log2_lt hzero).mpr hlt
    obtain h | h := hlow
    · omega
    · have hle : 2 ^ (52 + s) ≤ num / den := by
        rw [Nat.le_div_iff_mul_le hden, Nat.pow_add]
        exact h
      have := (Nat.le_log2 hzero).mpr hle
      omega

/-- Whether `v` units are rounded to the magnitude `m`: `v` lies between the midpoints to the two
neighbours, which themselves belong to it if it is even. -/
structure RoundsTo (m : Nat) (v : ℚ) : Prop where
  low : (units (m - 1) : ℚ) + units m ≤ 2 * v
  high : 2 * v ≤ units m + units (m + 1)
  strict : m % 2 = 1 → (units (m - 1) : ℚ) + units m < 2 * v ∧ 2 * v < units m + units (m + 1)

/-- Less than half a unit is rounded to zero. -/
lemma RoundsTo.one_le {m : Nat} {v : ℚ} (h : RoundsTo m v) (hm : 0 < m) : 1 ≤ 2 * v := by
  have hlow := h.low
  have hone : (1 : ℚ) ≤ units m := by exact_mod_cast units_pos m hm
  have hpred : (0 : ℚ) ≤ units (m - 1) := Nat.cast_nonneg _
  linarith

section Magnitude

variable {m num den : Nat}

/-- The bounds of a value that is given as a fraction. -/
lemma roundsTo_div_iff (hden : 0 < den) :
    RoundsTo m ((num : ℚ) / den) ↔
      units (m - 1) * den + units m * den ≤ 2 * num ∧
      2 * num ≤ units m * den + units (m + 1) * den ∧
      (m % 2 = 1 → units (m - 1) * den + units m * den < 2 * num ∧
        2 * num < units m * den + units (m + 1) * den) := by
  have hpos : (0 : ℚ) < den := by exact_mod_cast hden
  have hvalue : 2 * ((num : ℚ) / den) = (2 * num : ℚ) / den := by ring
  constructor
  · rintro ⟨hlow, hhigh, hstrict⟩
    rw [hvalue, le_div_iff₀ hpos, add_mul] at hlow
    rw [hvalue, div_le_iff₀ hpos, add_mul] at hhigh
    rw [hvalue, lt_div_iff₀ hpos, div_lt_iff₀ hpos, add_mul, add_mul] at hstrict
    exact ⟨by exact_mod_cast hlow, by exact_mod_cast hhigh, fun hodd => by
      exact_mod_cast hstrict hodd⟩
  · rintro ⟨hlow, hhigh, hstrict⟩
    constructor
    · rw [hvalue, le_div_iff₀ hpos, add_mul]
      exact_mod_cast hlow
    · rw [hvalue, div_le_iff₀ hpos, add_mul]
      exact_mod_cast hhigh
    · rw [hvalue, lt_div_iff₀ hpos, div_lt_iff₀ hpos, add_mul, add_mul]
      intro hodd
      exact_mod_cast hstrict hodd

/-- The bounds for rounding in steps of `2 ^ s` units, where the significand has its leading bit. -/
lemma nearestMagnitude_of_bounds {s g : Nat} (hden : 0 < den)
    (hbottom : s = 0 ∨ binade * (2 ^ s * den) ≤ num) (htop : num < 2 * binade * (2 ^ s * den))
    (hlow : 2 * (g * (2 ^ s * den)) ≤ 2 * num + 2 ^ s * den)
    (hhigh : 2 * num ≤ 2 * (g * (2 ^ s * den)) + 2 ^ s * den)
    (hodd : g % 2 = 1 → 2 * (g * (2 ^ s * den)) < 2 * num + 2 ^ s * den ∧
      2 * num < 2 * (g * (2 ^ s * den)) + 2 ^ s * den) :
    nearestMagnitude num den = s * binade + g := by
  rw [← Nat.mul_assoc] at hbottom htop
  have hlog := log2_div_sub hden hbottom htop
  have hstep := Nat.mul_pos (Nat.two_pow_pos s) hden
  have hround := roundHalfEven_eq hstep hlow hhigh hodd
  unfold nearestMagnitude
  dsimp only
  rw [hlog, Nat.pow_eq, Nat.mul_comm den, hround]

section Steps

variable (h : RoundsTo m ((num : ℚ) / den)) (hden : 0 < den)

include h hden

lemma RoundsTo.le_step :
    2 * num ≤ 2 * (significand m * (2 ^ scale m * den)) + 2 ^ scale m * den ∧
      (m % 2 = 1 →
        2 * num < 2 * (significand m * (2 ^ scale m * den)) + 2 ^ scale m * den) := by
  obtain ⟨-, hhigh, hstrict⟩ := (roundsTo_div_iff hden).mp h
  have hself : units m * den = significand m * (2 ^ scale m * den) := by
    rw [units_eq, Nat.mul_assoc]
  have hnext : units (m + 1) * den = units m * den + 2 ^ scale m * den := by
    rw [units_succ, Nat.add_mul, Nat.one_mul, ← units_eq, Nat.add_mul]
  rw [← hself]
  refine ⟨by omega, fun hodd => ?_⟩
  have := hstrict hodd
  omega

lemma RoundsTo.step_le (hm : 0 < m) (hspacing : scale m = 0 ∨ binade < significand m) :
    2 * (significand m * (2 ^ scale m * den)) ≤ 2 * num + 2 ^ scale m * den ∧
      (m % 2 = 1 →
        2 * (significand m * (2 ^ scale m * den)) < 2 * num + 2 ^ scale m * den) := by
  obtain ⟨hlow, -, hstrict⟩ := (roundsTo_div_iff hden).mp h
  have hself : units m * den = significand m * (2 ^ scale m * den) := by
    rw [units_eq, Nat.mul_assoc]
  have hpred : units (m - 1) * den + 2 ^ scale m * den = units m * den := by
    rw [← Nat.add_mul, units_pred m hm hspacing]
  rw [← hself]
  refine ⟨by omega, fun hodd => ?_⟩
  have := hstrict hodd
  omega

lemma RoundsTo.step_le_of_power {s : Nat} (hs : scale m = s + 1) (hsig : significand m = binade) :
    2 * (2 * binade * (2 ^ s * den)) ≤ 2 * num + 2 ^ s * den := by
  obtain ⟨hlow, -, -⟩ := (roundsTo_div_iff hden).mp h
  have hself : units m * den = 2 * binade * (2 ^ s * den) := by
    rw [units_eq, hs, hsig, Nat.pow_succ]
    ring
  have hpred : units (m - 1) * den + 2 ^ s * den = units m * den := by
    rw [← Nat.add_mul, units_pred_of_power m hs hsig]
  omega

/-- A value is rounded to the magnitude that stands for it. -/
theorem nearestMagnitude_eq (hm : 0 < m) : nearestMagnitude num den = m := by
  have hsplit := scale_mul_add_significand m
  have hsig := significand_lt m
  obtain ⟨hhigh, hhighOdd⟩ := h.le_step hden
  have hmax := Nat.mul_le_mul_right (2 ^ scale m * den) (Nat.le_sub_one_of_lt hsig)
  have htop : num < 2 * binade * (2 ^ scale m * den) := by
    have hstep := Nat.mul_pos (Nat.two_pow_pos (scale m)) hden
    unfold binade at *
    omega
  by_cases hspacing : scale m = 0 ∨ binade < significand m
  · obtain ⟨hlow, hlowOdd⟩ := h.step_le hden hm hspacing
    have hbottom : scale m = 0 ∨ binade * (2 ^ scale m * den) ≤ num := by
      refine hspacing.imp id fun hgt => ?_
      have hmul := Nat.mul_le_mul_right (2 ^ scale m * den) (Nat.succ_le_of_lt hgt)
      rw [Nat.succ_mul] at hmul
      omega
    rw [nearestMagnitude_of_bounds hden hbottom htop hlow hhigh, hsplit]
    intro hodd
    have hmodd : m % 2 = 1 := by
      unfold binade at *
      omega
    exact ⟨hlowOdd hmodd, hhighOdd hmodd⟩
  · have hle := binade_le_significand m fun hzero => hspacing (.inl hzero)
    have hpower : significand m = binade := by omega
    obtain ⟨s, hs⟩ := Nat.exists_eq_succ_of_ne_zero fun hzero => hspacing (.inl hzero)
    have heven : ¬binade % 2 = 1 := by decide
    rw [hpower] at hhigh hsplit
    by_cases hbelow : num < binade * (2 ^ scale m * den)
    · -- Below the power of two the steps are half as large, and rounding carries into it.
      have hlow := h.step_le_of_power hden hs hpower
      have hdouble : 2 ^ scale m * den = 2 * (2 ^ s * den) := by
        rw [hs, Nat.pow_succ]
        ring
      have hbottom : binade * (2 ^ s * den) ≤ num := by
        unfold binade at *
        omega
      have hcarry : num < 2 * binade * (2 ^ s * den) := by
        unfold binade at *
        omega
      rw [nearestMagnitude_of_bounds hden (.inr hbottom) hcarry hlow (by omega)
        (fun hodd => absurd hodd (by decide))]
      rw [hs, Nat.succ_mul] at hsplit
      omega
    · rw [nearestMagnitude_of_bounds (g := binade) hden (.inr (by omega)) htop ?_ hhigh
        (fun hodd => absurd hodd heven), hsplit]
      omega

end Steps

end Magnitude

/-! ### Decimals -/

lemma exists_unitsPerOne : ∃ k, k = 1074 ∧ unitsPerOne = 2 ^ k := by
  obtain ⟨k, hk⟩ : ∃ k, k = 1074 := ⟨1074, rfl⟩
  refine ⟨k, hk, ?_⟩
  delta unitsPerOne
  rw [← hk]
  exact Nat.pow_eq

lemma unitsPerOne_pos : 0 < unitsPerOne := by
  obtain ⟨k, -, hunits⟩ := exists_unitsPerOne
  rw [hunits]
  exact Nat.two_pow_pos k

lemma two_pow_le_ten_pow {a b : Nat} (h : a ≤ 3 * b) : 2 ^ a ≤ 10 ^ b := by
  calc 2 ^ a ≤ 2 ^ (3 * b) := Nat.pow_le_pow_right Nat.two_pos h
    _ = (2 ^ 3) ^ b := Nat.pow_mul 2 3 b
    _ ≤ 10 ^ b := Nat.pow_le_pow_left (by decide) b

lemma zpow_eq_div (e : Int) : (10 : ℚ) ^ e = 10 ^ e.toNat / 10 ^ (-e).toNat := by
  by_cases he : 0 ≤ e
  · obtain ⟨n, rfl⟩ := Int.eq_ofNat_of_zero_le he
    rw [show (-(n : Int)).toNat = 0 by omega, Int.toNat_natCast, pow_zero, div_one, zpow_natCast]
  · obtain ⟨n, hn⟩ := Int.eq_ofNat_of_zero_le (show 0 ≤ -e by omega)
    rw [hn, show e.toNat = 0 by omega, Int.toNat_natCast, pow_zero, one_div, ← zpow_natCast,
      ← zpow_neg, show e = -(n : Int) by omega]

section Decimals

variable {d : Decimal} {m : Nat}

lemma digits_mul_lt (d : Decimal) {n : Int}
    (hn : ((digits d.digits).length : Int) + d.exponent ≤ n) :
    (d.digits : ℚ) * 10 ^ d.exponent < 10 ^ n := by
  have hdigits : (d.digits : ℚ) < 10 ^ (digits d.digits).length := by
    exact_mod_cast Text.lt_pow_length_digits d.digits
  calc (d.digits : ℚ) * 10 ^ d.exponent
      < 10 ^ (digits d.digits).length * 10 ^ d.exponent :=
        mul_lt_mul_of_pos_right hdigits (zpow_pos (by norm_num) _)
    _ = 10 ^ (((digits d.digits).length : Int) + d.exponent) := by
        rw [zpow_add₀ (by norm_num), zpow_natCast]
    _ ≤ 10 ^ n := zpow_le_zpow_right₀ (by norm_num) hn

lemma le_digits_mul (d : Decimal) (hd : d.digits ≠ 0) {n : Int}
    (hn : n < ((digits d.digits).length : Int) + d.exponent) :
    (10 : ℚ) ^ n ≤ d.digits * 10 ^ d.exponent := by
  have hlen := Text.length_digits_pos d.digits
  have hdigits : (10 : ℚ) ^ ((digits d.digits).length - 1) ≤ d.digits := by
    exact_mod_cast Text.pow_length_digits_le d.digits hd
  calc (10 : ℚ) ^ n ≤ 10 ^ (((digits d.digits).length - 1 : Nat) + d.exponent : Int) :=
        zpow_le_zpow_right₀ (by norm_num) (by omega)
    _ = 10 ^ ((digits d.digits).length - 1) * 10 ^ d.exponent := by
        rw [zpow_add₀ (by norm_num), zpow_natCast]
    _ ≤ d.digits * 10 ^ d.exponent :=
        mul_le_mul_of_nonneg_right hdigits (zpow_nonneg (by norm_num) _)

/-- What is rounded to a positive number has few zeros behind the point. -/
lemma RoundsTo.le_size (h : RoundsTo m (d.digits * (10 : ℚ) ^ d.exponent * unitsPerOne))
    (hm : 0 < m) : -400 ≤ ((digits d.digits).length : Int) + d.exponent := by
  by_contra hsmall
  obtain ⟨n, hn⟩ := Int.eq_ofNat_of_zero_le
    (show 0 ≤ -(((digits d.digits).length : Int) + d.exponent) by omega)
  have hlt := digits_mul_lt d (n := -(n : Int)) (by omega)
  rw [zpow_neg, zpow_natCast] at hlt
  have hunit : (2 : ℚ) * unitsPerOne ≤ 10 ^ n := by
    obtain ⟨k, hk, hunits⟩ := exists_unitsPerOne
    have hpow := two_pow_le_ten_pow (a := k + 1) (b := n) (by omega)
    rw [Nat.pow_succ, ← hunits, Nat.mul_comm] at hpow
    exact_mod_cast hpow
  have hpos : (0 : ℚ) < 2 * unitsPerOne :=
    mul_pos two_pos (by exact_mod_cast unitsPerOne_pos)
  have hvalue : 2 * ((d.digits : ℚ) * 10 ^ d.exponent * unitsPerOne) < 1 := by
    calc 2 * ((d.digits : ℚ) * 10 ^ d.exponent * unitsPerOne)
        = (d.digits : ℚ) * 10 ^ d.exponent * (2 * unitsPerOne) := by ring
      _ < ((10 : ℚ) ^ n)⁻¹ * (2 * unitsPerOne) := mul_lt_mul_of_pos_right hlt hpos
      _ ≤ ((10 : ℚ) ^ n)⁻¹ * 10 ^ n := by gcongr
      _ = 1 := inv_mul_cancel₀ (by positivity)
  exact absurd (h.one_le hm) (not_le.mpr hvalue)

/-- What is rounded to a finite number has few digits before the point. -/
lemma RoundsTo.size_le (h : RoundsTo m (d.digits * (10 : ℚ) ^ d.exponent * unitsPerOne))
    (hm : m < infinityBits) (hd : d.digits ≠ 0) :
    ((digits d.digits).length : Int) + d.exponent ≤ 400 := by
  by_contra hlarge
  obtain ⟨n, hn⟩ := Int.eq_ofNat_of_zero_le
    (show 0 ≤ ((digits d.digits).length : Int) + d.exponent - 1 by omega)
  have hle := le_digits_mul d hd (n := (n : Int)) (by omega)
  rw [zpow_natCast] at hle
  have hunit : (units (m + 1) : ℚ) ≤ 10 ^ n * unitsPerOne := by
    obtain ⟨k, hk, hunits⟩ := exists_unitsPerOne
    have hscale := scale_le_of_finite m hm
    have hnat : units (m + 1) ≤ 10 ^ n * unitsPerOne := by
      calc units (m + 1) ≤ 2 ^ (53 + scale m) := units_succ_le m (Nat.le_refl _)
        _ ≤ 2 ^ (3 * n + k) := Nat.pow_le_pow_right Nat.two_pos (by omega)
        _ = 2 ^ (3 * n) * unitsPerOne := by rw [Nat.pow_add, hunits]
        _ ≤ 10 ^ n * unitsPerOne :=
            Nat.mul_le_mul_right _ (two_pow_le_ten_pow (Nat.le_refl _))
    exact_mod_cast hnat
  have hlt : (units m : ℚ) < units (m + 1) := by exact_mod_cast units_lt_units_succ m
  have hhigh := h.high
  have hpos : (0 : ℚ) < unitsPerOne := by exact_mod_cast unitsPerOne_pos
  have hmul := mul_le_mul_of_nonneg_right hle hpos.le
  linarith

/-- A decimal is read as the number that its value is rounded to. -/
theorem ofDecimal_eq (hm : 0 < m) (hfinite : m < infinityBits)
    (h : RoundsTo m (d.digits * (10 : ℚ) ^ d.exponent * unitsPerOne)) :
    ofDecimal d = ofMagnitude d.negative m := by
  have hdigits : d.digits ≠ 0 := by
    intro hzero
    have hone := h.one_le hm
    rw [hzero, Nat.cast_zero, zero_mul, zero_mul, mul_zero] at hone
    linarith
  have hlow := h.le_size hm
  have hhigh := h.size_le hfinite hdigits
  have hnearest : nearestMagnitude (d.digits * 10 ^ d.exponent.toNat * unitsPerOne)
      (10 ^ (-d.exponent).toNat) = m := by
    refine nearestMagnitude_eq ?_ (Nat.pow_pos (by decide)) hm
    rw [zpow_eq_div] at h
    push_cast
    convert h using 1
    ring
  unfold ofDecimal
  dsimp only
  rw [if_neg (by omega), if_neg (by omega), Nat.pow_eq, Nat.pow_eq, hnearest]

lemma ofDecimal_zero (hd : d.digits = 0) : ofDecimal d = ofMagnitude d.negative 0 := by
  unfold ofDecimal
  dsimp only
  rw [if_pos (.inl hd)]

end Decimals

end FilterQuery.Double
