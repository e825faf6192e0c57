/-!
# Bracketed lists

Lists in brackets are broken after the opening bracket, after each comma and before the closing
bracket. What stands at a break depends on how many brackets are open there.
-/

namespace FilterQuery.Text

/-- How a break looks at each depth. -/
abbrev Break := Nat → List Char

namespace Break

/-- Nothing is written at a break. -/
def none : Break := fun _ => []

def space : Break := fun _ => [' ']

/-- A new line, indented by two spaces for each open bracket. -/
def line : Break := fun depth => '\n' :: List.replicate (2 * depth) ' '

end Break

/-- The items with a comma and a break between them. -/
def commaSeparated (gap : List Char) : List (List Char) → List Char
  | [] => []
  | [item] => item
  | item :: rest => item ++ ',' :: gap ++ commaSeparated gap rest

/-- The items between brackets, at a depth of `depth` outside of them; brackets without items stay
together. -/
def enclose (opening closing : Char) (gap : Break) (depth : Nat) (items : List (List Char)) :
    List Char :=
  match items with
  | [] => [opening, closing]
  | items =>
    opening :: gap (depth + 1) ++ commaSeparated (gap (depth + 1)) items ++ gap depth ++ [closing]

end FilterQuery.Text
