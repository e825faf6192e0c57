import FilterQuery.Proofs.ExtendedJson
import FilterQuery.Proofs.NumericTokens
import Mathlib.Algebra.Order.Ring.Cast

/-!
# Rendered numbers

A finite number is read back from its shell text and from its JSON text, where only the sign of zero
is lost. JSON has an integer for it exactly if its value is an integer of at most `2 ^ 53` in absolute
value, and this integer is its value.
-/

namespace FilterQuery

open Text (digits digitsValue)

namespace Double

def sign (x : Double) : ℤ := if x.negative then -1 else 1

/-- The rational number that a finite double stands for. -/
def value (x : Double) : ℚ := x.sign * (units x.magnitude / unitsPerOne)

variable {x : Double} {n : ℤ}

lemma abs_sign (x : Double) : |x.sign| = 1 := by
  unfold sign
  split_ifs <;> rfl

lemma value_eq_intCast_iff :
    x.value = n ↔ units x.magnitude = n.natAbs * unitsPerOne ∧ n = x.sign * n.natAbs := by
  have hunit : (0 : ℚ) < unitsPerOne := by exact_mod_cast unitsPerOne_pos
  have hquotient : (units x.magnitude / unitsPerOne : ℚ) = n.natAbs ↔
      units x.magnitude = n.natAbs * unitsPerOne := by
    rw [div_eq_iff hunit.ne']
    exact_mod_cast Iff.rfl
  have hnonneg : (0 : ℚ) ≤ units x.magnitude / unitsPerOne :=
    div_nonneg (Nat.cast_nonneg _) hunit.le
  rw [← hquotient]
  unfold value
  generalize (units x.magnitude / unitsPerOne : ℚ) = q at hnonneg ⊢
  constructor
  · intro h
    have hq : q = n.natAbs := by
      rw [Nat.cast_natAbs, Int.cast_abs, ← h, abs_mul, ← Int.cast_abs, abs_sign, Int.cast_one,
        one_mul, abs_of_nonneg hnonneg]
    refine ⟨hq, Int.cast_injective (α := ℚ) ?_⟩
    rw [Int.cast_mul, Int.cast_natCast, ← hq]
    exact h.symm
  · rintro ⟨hq, hn⟩
    rw [hq, ← Int.cast_natCast n.natAbs, ← Int.cast_mul, ← hn]

/-- The integers that are written as such are the values of at most `2 ^ 53`. -/
lemma safeInteger?_eq_some_iff (hx : x.isFinite = true) :
    x.safeInteger? = some n ↔ x.value = n ∧ |n| ≤ 2 ^ 53 := by
  have hunit := unitsPerOne_pos
  have hlimit : 2 * binade = 2 ^ 53 := rfl
  rw [value_eq_intCast_iff, Int.abs_eq_natAbs, sign]
  unfold safeInteger?
  rw [hlimit, hx]
  simp only [Bool.true_and, Option.ite_none_right_eq_some, Bool.and_eq_true, beq_iff_eq,
    decide_eq_true_eq, Option.some.injEq, ← Int.natCast_ediv]
  generalize unitsPerOne = u at hunit ⊢
  generalize units x.magnitude = k
  constructor
  · rintro ⟨⟨hexact, hle⟩, hn⟩
    have hk := Nat.div_mul_cancel (Nat.dvd_of_mod_eq_zero hexact)
    generalize k / u = q at hle hn hk
    have hq : n.natAbs = q := by
      split_ifs at hn <;> omega
    rw [hq]
    refine ⟨⟨hk.symm, ?_⟩, by exact_mod_cast hle⟩
    split_ifs at hn ⊢ <;> omega
  · rintro ⟨⟨rfl, hn⟩, hle⟩
    rw [Nat.mul_mod_left, Nat.mul_div_cancel _ hunit]
    refine ⟨⟨rfl, by exact_mod_cast hle⟩, ?_⟩
    split_ifs at hn ⊢ <;> omega

lemma ofMagnitude_self (hx : x.isFinite = true) : ofMagnitude x.negative x.magnitude = x := by
  have hm : x.magnitude < infinityBits := of_decide_eq_true hx
  unfold ofMagnitude
  cases x
  simp only [mk.injEq, true_and]
  exact Nat.min_eq_left hm.le

end Double

section Integers

variable {x : Double} {n : ℤ}

lemma Decimal.read?_integerText (n : ℤ) :
    Decimal.read? (Json.integerText n) = some ⟨decide (n < 0), n.natAbs, 0⟩ := by
  have hdigits := Text.isDigit_of_mem_digits n.natAbs
  have hne := List.ne_nil_of_length_pos (Text.length_digits_pos n.natAbs)
  have htext : Decimal.Positional (Text.digits n.natAbs) (Text.digits n.natAbs) [] :=
    ⟨hne, hdigits, List.forall_mem_nil _, .inl ⟨rfl, rfl⟩⟩
  have hread := (Decimal.Numeral.plain htext).read?_eq (decide (n < 0))
  rw [List.append_nil, Text.digitsValue_digits, List.length_nil, Nat.cast_zero, sub_zero] at hread
  simpa only [Json.integerText, decide_eq_true_eq] using hread

lemma Double.ofDecimal_integer (hx : x.isFinite = true) (h : x.safeInteger? = some n) :
    Double.ofDecimal ⟨decide (n < 0), n.natAbs, 0⟩ = x.unsignedZero := by
  obtain ⟨hunits, hsign⟩ := units_of_safeInteger? h
  unfold unsignedZero
  split_ifs with hzero
  · -- Zero has no units, so the integer is zero, which has no sign.
    rw [hzero] at hunits
    obtain habs | hunit := Nat.mul_eq_zero.mp hunits.symm
    · rw [Int.natAbs_eq_zero.mp habs]
      exact ofDecimal_zero rfl
    · exact absurd hunit unitsPerOne_pos.ne'
  · have hpos := Nat.pos_of_ne_zero hzero
    have hn : n ≠ 0 := by
      rintro rfl
      have hunit := units_pos x.magnitude hpos
      rw [hunits, Int.natAbs_zero, Nat.zero_mul] at hunit
      exact Nat.lt_irrefl 0 hunit
    have hvalue : ((n.natAbs : ℕ) : ℚ) * 10 ^ (0 : ℤ) * unitsPerOne = units x.magnitude := by
      rw [zpow_zero, mul_one, hunits, Nat.cast_mul]
    have hrounds := roundsTo_units hpos
    rw [← hvalue] at hrounds
    rw [ofDecimal_eq hpos (of_decide_eq_true hx) hrounds]
    exact hsign hn ▸ ofMagnitude_self hx

/-- The text of an integer is read as the number that has this value, zero being positive. -/
lemma Literal.readNumber?_integerText (hx : x.isFinite = true) (h : x.safeInteger? = some n) :
    Literal.readNumber? (Json.integerText n) = some x.unsignedZero := by
  have hfinite : x.unsignedZero.isFinite = true := by
    unfold Double.unsignedZero
    split_ifs
    · rfl
    · exact hx
  unfold readNumber?
  rw [Decimal.read?_integerText]
  dsimp only
  rw [Double.ofDecimal_integer hx h, if_pos hfinite]

end Integers

/-! ### Texts of numbers -/

section Rendered

variable {x : Double} (hx : x.isFinite = true)

include hx

/-- The numbers that are written as integers are those with integral values up to the limit. -/
lemma Json.ofDouble_eq_integer_iff {n : ℤ} :
    Json.ofDouble x = .integer n ↔ x.value = n ∧ |n| ≤ 2 ^ 53 := by
  rw [← Double.safeInteger?_eq_some_iff hx]
  obtain ⟨m, hm, hjson⟩ | ⟨hnone, hjson⟩ := Json.ofDouble_of_finite hx
  · rw [hjson, hm, Json.integer.injEq, Option.some.injEq]
  · rw [hjson, hnone]
    constructor
    · intro h
      cases h
    · intro h
      cases h

lemma Json.ofDouble_eq_number_iff :
    Json.ofDouble x = .number x hx ↔ ¬∃ n : ℤ, x.value = n ∧ |n| ≤ 2 ^ 53 := by
  simp only [← Json.ofDouble_eq_integer_iff hx]
  obtain ⟨m, -, hjson⟩ | ⟨-, hjson⟩ := Json.ofDouble_of_finite hx
  · rw [hjson]
    constructor
    · intro h
      cases h
    · exact fun h => absurd ⟨m, rfl⟩ h
  · rw [hjson]
    refine iff_of_true rfl ?_
    rintro ⟨n, h⟩
    cases h

lemma Literal.readNumber?_json (layout : Json.Layout) (depth : ℕ) :
    Literal.readNumber? ((Json.ofDouble x).print layout depth) = some x.unsignedZero := by
  obtain ⟨n, hn, hjson⟩ | ⟨hnone, hjson⟩ := Json.ofDouble_of_finite hx
  · rw [hjson, Json.print]
    exact readNumber?_integerText hx hn
  · have hzero : x.magnitude ≠ 0 := by
      intro hzero
      have hvalue : x.value = (0 : ℤ) := by
        rw [Double.value, hzero, show Double.units 0 = 0 from rfl, Nat.cast_zero, zero_div, mul_zero,
          Int.cast_zero]
      rw [(Double.safeInteger?_eq_some_iff hx).mpr ⟨hvalue, by decide⟩] at hnone
      cases hnone
    rw [hjson, Json.print, readNumber?_text Json.numeral hx, Double.unsignedZero, if_neg hzero]

lemma Query.parse_numberText {name : String} (hname : FieldName name) :
    Query.parse (name ++ ":" ++ String.ofList (Shell.numberText x)) =
      .ok (.field name (.number x) none) := by
  have hplus : '+' ∉ Shell.numberText x := by
    intro hmem
    obtain hdigit | hpoint | hminus := Shell.mem_numberText hx '+' hmem
    · exact absurd hdigit (by decide)
    · exact absurd hpoint (by decide)
    · exact absurd hminus (by decide)
  have hparse := parse_unsignedNumeral hname (Literal.readNumber?_numberText hx) hplus
  have htext : name ++ ":" ++ String.ofList (Shell.numberText x) =
      String.ofList (name.toList ++ ':' :: Shell.numberText x) := by
    apply String.toList_injective
    simp
  rw [htext, hparse]

end Rendered

/-- A finite number is read back from its shell text, by itself and behind a name, and from its JSON
text, but for the sign of zero. In JSON it is an integer or not, by its value alone, and the integer
is the value. -/
theorem Double.readNumber?_print {x : Double} (hx : x.isFinite = true) :
    (∀ gap depth, Literal.readNumber? (Shell.print gap depth (.double x)) = some x) ∧
      (∀ layout depth, Literal.readNumber? ((Value.double x).toJson.print layout depth) =
        some x.unsignedZero) ∧
      (∀ name gap depth, FieldName name →
        Query.parse (name ++ ":" ++ String.ofList (Shell.print gap depth (.double x))) =
          .ok (.field name (.number x) none)) ∧
      (∀ n : ℤ, (Value.double x).toJson = .integer n ↔ x.value = n ∧ |n| ≤ 2 ^ 53) ∧
      ((Value.double x).toJson = .number x hx ↔ ¬∃ n : ℤ, x.value = n ∧ |n| ≤ 2 ^ 53) := by
  refine ⟨?_, ?_, ?_, ?_, ?_⟩
  · intro gap depth
    exact Literal.readNumber?_numberText hx
  · intro layout depth
    exact Literal.readNumber?_json hx layout depth
  · intro name gap depth hname
    exact Query.parse_numberText hx hname
  · intro n
    exact Json.ofDouble_eq_integer_iff hx
  · exact Json.ofDouble_eq_number_iff hx

/-- The first number below `-2 ^ 53`. -/
theorem Double.readNumber?_print_beyond :
    (Double.mk true 0x4340000000000001 (by decide)).isFinite = true ∧
      Query.parse "n:-9007199254740994" =
        .ok (.field "n" (.number ⟨true, 0x4340000000000001, by decide⟩) none) ∧
      Literal.readNumber? "-9007199254740994.0".toList =
        some ⟨true, 0x4340000000000001, by decide⟩ := by
  have hfinite : (Double.mk true 0x4340000000000001 (by decide)).isFinite = true := by decide
  have hname : FieldName "n" := ⟨by decide, List.all_eq_true.mp rfl⟩
  have hshell : "n" ++ ":" ++ String.ofList (Shell.print .space 0
      (.double ⟨true, 0x4340000000000001, by decide⟩)) = "n:-9007199254740994" := by
    decide +kernel
  have hjson : (Value.double ⟨true, 0x4340000000000001, by decide⟩).toJson.print .compact 0 =
      "-9007199254740994.0".toList := by
    decide +kernel
  obtain ⟨-, hread, hparse, -⟩ := Double.readNumber?_print hfinite
  refine ⟨hfinite, ?_, ?_⟩
  · rw [← hshell]
    exact hparse "n" .space 0 hname
  · rw [← hjson]
    exact hread .compact 0

end FilterQuery
