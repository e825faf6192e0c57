import FilterQuery.Double.Shortest

/-!
# Written numbers

The digits of a number are the same in all notations. A notation says which numbers are written
without an exponent and whether a number without a fraction keeps a point.
-/

namespace FilterQuery.Double

/-- The decisions of one way of writing numbers. -/
structure NumeralStyle where
  tie : Tie
  /-- Whether a number is written positionally, by the exponent of its first digit. -/
  positional : Int → Bool
  /-- Whether a positional number without a fraction ends in `.0`. -/
  pointZero : Bool

/-- Digits without the zeros at their end, and the exponent of the first one. -/
def significantDigits (tie : Tie) (m : Nat) : List Char × Int :=
  let (d, p) := shortest tie m
  let ds := Text.digits d
  (((ds.reverse.dropWhile (· == '0')).reverse), p + ds.length - 1)

/-- Digits with the point after the one of exponent zero. -/
def positionalText (pointZero : Bool) (ds : List Char) (e : Int) : List Char :=
  if e < 0 then '0' :: '.' :: List.replicate (-e - 1).toNat '0' ++ ds
  else
    let whole := e.toNat + 1
    if ds.length ≤ whole then
      ds ++ List.replicate (whole - ds.length) '0' ++ (if pointZero then ['.', '0'] else [])
    else ds.take whole ++ '.' :: ds.drop whole

/-- One digit before the point, and the exponent with its sign. -/
def scientificText (ds : List Char) (e : Int) : List Char :=
  let fraction := ds.drop 1
  ds.take 1 ++ (if fraction.isEmpty then [] else '.' :: fraction) ++
    ['e', if e < 0 then '-' else '+'] ++ Text.digits e.natAbs

def magnitudeText (style : NumeralStyle) (m : Nat) : List Char :=
  if m = 0 then '0' :: (if style.pointZero then ['.', '0'] else [])
  else
    let (ds, e) := significantDigits style.tie m
    if style.positional e then positionalText style.pointZero ds e else scientificText ds e

def text (style : NumeralStyle) (x : Double) : List Char :=
  (if x.negative then ['-'] else []) ++ magnitudeText style x.magnitude

end FilterQuery.Double
