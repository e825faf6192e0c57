import FilterQuery.Query.Literal
import FilterQuery.Query.Operator

/-!
# Queries

A query is a tree of comparisons joined by connectives. Comparisons of a field are told apart from
comparisons of a variable, whose name starts with two dollar signs.
-/

namespace FilterQuery

inductive Query where
  | join (op : Connective) (left right : Query)
  /-- A field and a value; without a comparator they are to be equal. -/
  | field (name : String) (value : Literal) (comparator : Option Comparator)
  /-- A variable that is to match a pattern. -/
  | variableMatch (input : String) (pattern : Pattern)
  | variableCompare (input : String) (value : Literal) (comparator : Option Comparator)
deriving DecidableEq

/-- Equality of queries, under which numbers are compared as numbers. -/
def Query.same : Query → Query → Bool
  | .join op l r, .join op' l' r' => op == op' && l.same l' && r.same r'
  | .field n v c, .field n' v' c' => n == n' && v.same v' && c == c'
  | .variableMatch i p, .variableMatch i' p' => i == i' && p == p'
  | .variableCompare i v c, .variableCompare i' v' c' => i == i' && v.same v' && c == c'
  | _, _ => false

end FilterQuery
