import FilterQuery.Date.Instant
import FilterQuery.Double.Basic
import FilterQuery.ObjectId
import FilterQuery.Pattern

/-!
# Literals
-/

namespace FilterQuery

/-- A value that a field is compared with. -/
inductive Literal where
  | boolean (b : Bool)
  | number (x : Double)
  | string (s : String)
  | regex (p : Pattern)
  | date (t : Instant)
  | objectId (id : ObjectId)
deriving DecidableEq

/-- Equality of literals, under which numbers are compared as numbers. -/
def Literal.same : Literal → Literal → Bool
  | .number x, .number y => x.numEq y
  | a, b => a == b

end FilterQuery
