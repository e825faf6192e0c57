import FilterQuery.Document.Json
import FilterQuery.Document.OfQuery

/-!
# Query trees as JSON

The tree of a query is shown as nested objects. A comparison of a variable is shown as a field whose
name is the key of the operator.
-/

namespace FilterQuery.Query

/-- A field's object; the comparator comes last, if there is one. -/
def fieldJson (name : String) (value : Json) (comparator : Option Comparator) : Json :=
  .object ([("type", .string "field"), ("name", .string name), ("value", value)] ++
    match comparator with
    | none => []
    | some c => [("cmp", .string c.name)])

def toJson : Query → Json
  | join op left right =>
    .object [("type", .string "op"), ("op", .string op.name), ("left", left.toJson),
      ("right", right.toJson)]
  | field name value comparator => fieldJson name (Value.ofLiteral value).toJson comparator
  | variableMatch input p =>
    fieldJson regexMatchKey
      (.object [("input", .string input), ("regex", (Value.regex p).toJson)]) none
  | variableCompare input value comparator =>
    fieldJson (comparisonKey comparator)
      (.array [.string input, (Value.ofLiteral value).toJson]) none

end FilterQuery.Query
