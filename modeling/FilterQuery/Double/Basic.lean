import FilterQuery.Decimal

/-!
# Double-precision numbers

A number is kept as its 64-bit pattern. The low 63 bits, taken as one natural number, grow with the
absolute value, so `magnitude + 1` is the next number away from zero and infinity follows the
largest finite number.
-/

namespace FilterQuery

/-- A sign bit and the 63 bits below it. -/
structure Double where
  negative : Bool
  magnitude : Nat
  magnitude_lt : magnitude < 0x8000000000000000
deriving DecidableEq

namespace Double

/-- The pattern of infinity: all exponent bits and no fraction bit. -/
def infinityBits : Nat := 0x7FF0000000000000

def isFinite (x : Double) : Bool := x.magnitude < infinityBits

def isNaN (x : Double) : Bool := infinityBits < x.magnitude

def isInfinite (x : Double) : Bool := x.magnitude == infinityBits

/-- The number with a given magnitude, infinity when it is too large. -/
def ofMagnitude (negative : Bool) (m : Nat) : Double :=
  ⟨negative, min m infinityBits, by unfold infinityBits; omega⟩

def zero : Double := ⟨false, 0, by decide⟩

def infinity (negative : Bool) : Double := ofMagnitude negative infinityBits

def nan : Double := ⟨false, 0x7FF8000000000000, by decide⟩

/-- Equality of numbers: the two zeros are equal, and a NaN differs from everything. -/
def numEq (x y : Double) : Bool :=
  !x.isNaN && !y.isNaN && (x == y || x.magnitude == 0 && y.magnitude == 0)

/-- The number of magnitudes from one power of two to the next, two to the power 52. -/
def binade : Nat := 0x10000000000000

/-- How often the significand is doubled: zero for the numbers with the smallest spacing. -/
def scale (m : Nat) : Nat := m / binade - 1

/-- The significand of a magnitude, with the leading bit that the pattern leaves out. -/
def significand (m : Nat) : Nat := m - scale m * binade

/-- The absolute value, as a multiple of the smallest positive number `2 ^ -1074`. -/
def units (m : Nat) : Nat := significand m * Nat.pow 2 (scale m)

def unitsPerOne : Nat := Nat.pow 2 1074

/-- The integer that a number equals, as long as it is at most `2 ^ 53`, two binades, in absolute
value: beyond, not every integer is a double. -/
def safeInteger? (x : Double) : Option Int :=
  if x.isFinite && units x.magnitude % unitsPerOne == 0 &&
      units x.magnitude / unitsPerOne ≤ 2 * binade then
    let n : Int := units x.magnitude / unitsPerOne
    some (if x.negative then -n else n)
  else none

end Double

end FilterQuery
