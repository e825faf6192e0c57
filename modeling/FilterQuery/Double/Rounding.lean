import FilterQuery.Double.Basic

/-!
# Rounding to double precision

A decimal numeral becomes the nearest double. Of two equally near ones the one with the even
magnitude is taken, and a value beyond the largest finite number by half a step or more becomes
infinity.
-/

namespace FilterQuery.Double

/-- The integer nearest to `num / den`, the even one of two. -/
def roundHalfEven (num den : Nat) : Nat :=
  let q := num / den
  let r := num % den
  if 2 * r < den then q else if den < 2 * r then q + 1 else q + q % 2

/-- The magnitude nearest to `num / den` units. Dropping `k` low bits leaves a significand of at
most 53 bits, and adding `k` steps of the exponent puts it in its place, also when rounding
carries. -/
def nearestMagnitude (num den : Nat) : Nat :=
  let k := (num / den).log2 - 52
  k * binade + roundHalfEven num (den * Nat.pow 2 k)

/-- The double nearest to a decimal. A value of more than 400 digits before the point, or of more
than 400 zeros behind it, is not computed: it is beyond all finite numbers, or below all. -/
def ofDecimal (d : Decimal) : Double :=
  let size : Int := (Text.digits d.digits).length + d.exponent
  if d.digits = 0 ∨ size < -400 then ofMagnitude d.negative 0
  else if 400 < size then infinity d.negative
  else
    ofMagnitude d.negative
      (nearestMagnitude (d.digits * Nat.pow 10 d.exponent.toNat * unitsPerOne)
        (Nat.pow 10 (-d.exponent).toNat))

end FilterQuery.Double
