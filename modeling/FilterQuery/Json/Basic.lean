import FilterQuery.Double.Basic

/-!
# JSON values
-/

namespace FilterQuery

/-- A JSON value. Numbers come as integers or as doubles, and only finite doubles have a text. -/
inductive Json where
  | null
  | boolean (b : Bool)
  | integer (n : Int)
  | number (x : Double) (finite : x.isFinite)
  | string (s : String)
  | array (items : List Json)
  | object (members : List (String × Json))

/-- The JSON form of a number: an integer where that is exact, and nothing at all for a number that
is not finite. -/
def Json.ofDouble (x : Double) : Json :=
  match x.safeInteger? with
  | some n => integer n
  | none => if h : x.isFinite then number x h else null

end FilterQuery
