import FilterQuery.Text.Basic
import FilterQuery.Text.Digits

/-!
# Decimal numerals

A numeral is an optional minus sign, digits with at most one point among or around them, and an
optional exponent. Reading a numeral keeps its exact value.
-/

namespace FilterQuery

/-- The number `± digits · 10 ^ exponent`. -/
structure Decimal where
  negative : Bool
  digits : Nat
  exponent : Int
deriving DecidableEq

namespace Decimal

/-- The part before the exponent: digits before the point, digits after it, and the rest. -/
def readMantissa (cs : List Char) : Option (List Char × List Char × List Char) :=
  match Text.run Char.isDigit cs with
  | ([], '.' :: rest) =>
    match Text.run Char.isDigit rest with
    | ([], _) => none
    | (fraction, rest) => some ([], fraction, rest)
  | ([], _) => none
  | (whole, '.' :: rest) =>
    let (fraction, rest) := Text.run Char.isDigit rest
    some (whole, fraction, rest)
  | (whole, rest) => some (whole, [], rest)

/-- Reads digits that take up the whole text. -/
def readWhole (cs : List Char) : Option Nat :=
  if cs ≠ [] ∧ cs.all Char.isDigit then some (Text.digitsValue cs) else none

/-- The exponent that takes up the whole text, zero when there is none. -/
def readExponent (cs : List Char) : Option Int :=
  match cs with
  | [] => some 0
  | e :: rest =>
    if e = 'e' ∨ e = 'E' then
      match rest with
      | '-' :: ds => (readWhole ds).map fun n => -(n : Int)
      | '+' :: ds => (readWhole ds).map fun n => (n : Int)
      | ds => (readWhole ds).map fun n => (n : Int)
    else none

def readSign : List Char → Bool × List Char
  | '-' :: cs => (true, cs)
  | cs => (false, cs)

/-- The numeral that takes up the whole text. -/
def read? (cs : List Char) : Option Decimal :=
  let (negative, cs) := readSign cs
  match readMantissa cs with
  | none => none
  | some (whole, fraction, rest) =>
    (readExponent rest).map fun e =>
      ⟨negative, Text.digitsValue (whole ++ fraction), e - fraction.length⟩

end Decimal

end FilterQuery
