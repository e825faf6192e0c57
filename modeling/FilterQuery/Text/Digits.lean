/-!
# Decimal digits
-/

namespace FilterQuery.Text

/-- The number that a list of decimal digits denotes, the first digit being the highest. -/
def digitsValue (cs : List Char) : Nat :=
  cs.foldl (fun n c => 10 * n + (c.toNat - 48)) 0

/-- The decimal digits of `n`, without leading zeros. -/
def digits (n : Nat) : List Char :=
  Nat.toDigits 10 n

/-- The decimal digits of `n`, with zeros in front up to `width` of them. -/
def paddedDigits (width n : Nat) : List Char :=
  List.replicate (width - (digits n).length) '0' ++ digits n

end FilterQuery.Text
