import FilterQuery.Document.Basic
import FilterQuery.Query.Parser

/-!
# The document of a query

A field becomes an entry under its own name, a connective an entry whose value is the array of the
two sides. A comparison of a variable stands under the key of its comparator.
-/

namespace FilterQuery

namespace Query

def regexMatchKey : String := "$regexMatch"

def toDocument : Query → Document
  | join op left right =>
    .single op.key (.array [left.toDocument.toValue, right.toDocument.toValue])
  | field name value none => .single name (.ofLiteral value)
  | field name value (some c) => .single name (Document.single c.key (.ofLiteral value)).toValue
  | variableMatch input p =>
    .single regexMatchKey
      (Document.ofList [("input", .string input), ("regex", .regex p)]).toValue
  | variableCompare input value comparator =>
    .single (comparisonKey comparator) (.array [.string input, .ofLiteral value])

end Query

/-- The document of what a user writes. -/
def Document.ofText (text : String) : Except ParseError Document :=
  (Query.parse text).map Query.toDocument

end FilterQuery
