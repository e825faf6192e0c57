import FilterQuery.Double.Basic

/-!
# Shortest decimals

Each finite number has decimals that read back as it; a written number uses the shortest of them,
and of several shortest ones the nearest.
-/

namespace FilterQuery.Double

/-- Which of two shortest decimals is taken when the number lies exactly between them. -/
inductive Tie where
  | toEven
  | up
deriving DecidableEq

/-- The exponent of the first decimal digit. Scaling by `10 ^ 340` makes every positive number a
number of at least one unit, so its digits can be counted. -/
def decimalExponent (m : Nat) : Int :=
  (Text.digits (units m * Nat.pow 10 340 / unitsPerOne)).length - 341

/-- Whether `d · 10 ^ p` reads back as the magnitude `m`: it lies between the midpoints to the two
neighbours, which themselves go to the number whose magnitude is even. -/
def readsBack (m d : Nat) (p : Int) : Bool :=
  let low := (units (m - 1) + units m) * Nat.pow 10 (-p).toNat
  let high := (units m + units (m + 1)) * Nat.pow 10 (-p).toNat
  let value := 2 * d * (unitsPerOne * Nat.pow 10 p.toNat)
  if m % 2 = 0 then low ≤ value && value ≤ high else low < value && value < high

/-- The multiple of `10 ^ p` that reads back and is nearest to `m`, given as the multiplier. Only
the two neighbours of the value on this grid can be it. -/
def onGrid? (tie : Tie) (m : Nat) (p : Int) : Option Nat :=
  let num := units m * Nat.pow 10 (-p).toNat
  let step := unitsPerOne * Nat.pow 10 p.toNat
  let d := num / step
  let r := num % step
  let lower := readsBack m d p
  let upper := readsBack m (d + 1) p
  let nearer :=
    if 2 * r < step then d else if step < 2 * r then d + 1
    else match tie with
      | .toEven => d + d % 2
      | .up => d + 1
  if lower && upper then some nearer
  else if lower then some d
  else if upper then some (d + 1)
  else none

/-- The shortest decimal `(d, p)`, meaning `d · 10 ^ p`, of a positive finite magnitude. The grids
for one digit up to seventeen are tried in turn; the exact value would be the last resort. -/
def shortest (tie : Tie) (m : Nat) : Nat × Int :=
  let e := decimalExponent m
  let found := (List.range 17).findSome? fun (n : Nat) =>
    (onGrid? tie m (e - n)).map fun d => (d, e - (n : Int))
  found.getD (units m * Nat.pow 5 1074, -1074)

end FilterQuery.Double
