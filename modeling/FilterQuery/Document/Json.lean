import FilterQuery.Document.Basic
import FilterQuery.Json.Printer

/-!
# Documents as JSON

JSON has no patterns, dates and identifiers, so these are written as objects with keys that start
with a dollar sign.
-/

namespace FilterQuery

namespace Value

mutual

def toJson : Value → Json
  | boolean b => .boolean b
  | double x => .ofDouble x
  | string s => .string s
  | regex p => .object [("$regex", .string p.source), ("$options", .string p.options)]
  | date t => .object [("$date", .string (String.ofList t.text))]
  | objectId id => .object [("$oid", .string id.toHex)]
  | array items => .array (itemsToJson items)
  | document entries => .object (entriesToJson entries)

def itemsToJson : List Value → List Json
  | [] => []
  | v :: rest => v.toJson :: itemsToJson rest

def entriesToJson : List (String × Value) → List (String × Json)
  | [] => []
  | (key, v) :: rest => (key, v.toJson) :: entriesToJson rest

end

end Value

def Document.toJson (d : Document) : Json :=
  .object (Value.entriesToJson d.entries)

end FilterQuery
