import FilterQuery.Double.Numeral
import FilterQuery.Json.Basic
import FilterQuery.Text.Layout
import FilterQuery.Text.Quoted

/-!
# JSON text

A value is written on one line without any space, or with an item on each line.
-/

namespace FilterQuery.Json

/-- Numbers from `1e-5` up to `1e16` are written without an exponent, a positional number always
has a point, and an exact tie goes to the even digit. -/
def numeral : Double.NumeralStyle where
  tie := .toEven
  positional e := -5 ≤ e && e < 16
  pointZero := true

def integerText (n : Int) : List Char :=
  (if n < 0 then ['-'] else []) ++ Text.digits n.natAbs

/-- Where breaks go, and what follows a key. -/
structure Layout where
  gap : Text.Break
  afterKey : List Char

namespace Layout

def compact : Layout := ⟨.none, [':']⟩

def pretty : Layout := ⟨.line, [':', ' ']⟩

end Layout

mutual

/-- The text of a value that stands within `depth` brackets. -/
def print (layout : Layout) (depth : Nat) : Json → List Char
  | null => ['n', 'u', 'l', 'l']
  | boolean true => ['t', 'r', 'u', 'e']
  | boolean false => ['f', 'a', 'l', 's', 'e']
  | integer n => integerText n
  | number x _ => x.text numeral
  | string s => Text.quoted s.toList
  | array items => Text.enclose '[' ']' layout.gap depth (printItems layout (depth + 1) items)
  | object members =>
    Text.enclose '\x7b' '\x7d' layout.gap depth (printMembers layout (depth + 1) members)

def printItems (layout : Layout) (depth : Nat) : List Json → List (List Char)
  | [] => []
  | item :: rest => print layout depth item :: printItems layout depth rest

def printMembers (layout : Layout) (depth : Nat) : List (String × Json) → List (List Char)
  | [] => []
  | (key, value) :: rest =>
    (Text.quoted key.toList ++ layout.afterKey ++ print layout depth value) ::
      printMembers layout depth rest

end

def compact (j : Json) : String :=
  String.ofList (j.print .compact 0)

def pretty (j : Json) : String :=
  String.ofList (j.print .pretty 0)

end FilterQuery.Json
