import FilterQuery.Proofs.DocumentShape
import FilterQuery.Query.Tree

/-!
# Two renderings of a query

A query can be shown as a tree and as the document that it is compiled to. `Json.asDocument` is a
fold of the JSON of the tree that gives the JSON of the document, and `Json.asTree` leads back, so
both show the same. Neither asks where a query comes from: its names may be those of operators, and
its numbers need not be finite.
-/

namespace FilterQuery

namespace Json

/-- The document of a query tree. A connective holds the documents of its two sides under its key,
and a field holds its value, under the key of its comparator if there is one. -/
def asDocument : Json → Json
  | object [("type", string "op"), ("op", string op), ("left", left), ("right", right)] =>
    object [("$" ++ op, array [left.asDocument, right.asDocument])]
  | object [("type", string "field"), ("name", string name), ("value", value)] =>
    object [(name, value)]
  | object [("type", string "field"), ("name", string name), ("value", value),
      ("cmp", string comparator)] => object [(name, object [("$" ++ comparator, value)])]
  | j => j

/-- The name of an operator, which is its key without the dollar sign. -/
def operatorName (key : String) : String :=
  String.ofList key.toList.tail

/-- The object of a field in a query tree. -/
def treeField (name : String) (value : Json) : Json :=
  object [("type", string "field"), ("name", string name), ("value", value)]

/-- The query tree of a document. Only a connective has two objects under its key, and only a
comparator is the one key of an object under the name of a field. -/
def asTree : Json → Json
  | object [(key, array [object left, object right])] =>
    object [("type", string "op"), ("op", string (operatorName key)),
      ("left", (object left).asTree), ("right", (object right).asTree)]
  | object [(key, object [(comparator, value)])] =>
    if comparator ∈ comparatorKeys then
      object [("type", string "field"), ("name", string key), ("value", value),
        ("cmp", string (operatorName comparator))]
    else treeField key (object [(comparator, value)])
  | object [(key, value)] => treeField key value
  | j => j

end Json

open Json

lemma Connective.key_eq (op : Connective) : "$" ++ op.name = op.key := by
  cases op <;> rfl

lemma Comparator.key_eq (c : Comparator) : "$" ++ c.name = c.key := by
  cases c <;> rfl

lemma Connective.operatorName_key (op : Connective) : operatorName op.key = op.name := by
  cases op <;> rfl

lemma Comparator.operatorName_key (c : Comparator) : operatorName c.key = c.name := by
  cases c <;> rfl

namespace Json

/-- A value that is no array, and no object of a comparator, is the value of a field. -/
lemma asTree_literal (name : String) (value : Literal) :
    (object [(name, (Value.ofLiteral value).toJson)]).asTree =
      treeField name (Value.ofLiteral value).toJson := by
  cases value with
  | number x =>
    change (object [(name, ofDouble x)]).asTree = treeField name (ofDouble x)
    unfold ofDouble
    split
    · rfl
    · split_ifs <;> rfl
  | date t => exact if_neg (by decide)
  | objectId id => exact if_neg (by decide)
  | boolean => rfl
  | string => rfl
  | regex => rfl

end Json

namespace Query

/-- By induction on the tree: the fold of its JSON is the JSON of its document. -/
lemma asDocument_toJson (q : Query) : q.toJson.asDocument = q.toDocument.toJson := by
  induction q with
  | join op left right ihl ihr =>
    change object [("$" ++ op.name, array [left.toJson.asDocument, right.toJson.asDocument])] =
      object [(op.key, array [left.toDocument.toJson, right.toDocument.toJson])]
    rw [op.key_eq, ihl, ihr]
  | field name value cmp =>
    cases cmp with
    | none => rfl
    | some c =>
      change object [(name, object [("$" ++ c.name, (Value.ofLiteral value).toJson)])] =
        object [(name, object [(c.key, (Value.ofLiteral value).toJson)])]
      rw [c.key_eq]
  | variableMatch input p => rfl
  | variableCompare input value cmp => rfl

/-- By induction on the tree: it is found again in the JSON of its document. -/
lemma asTree_toDocument (q : Query) : q.toDocument.toJson.asTree = q.toJson := by
  induction q with
  | join op left right ihl ihr =>
    change object [("type", string "op"), ("op", string (operatorName op.key)),
      ("left", left.toDocument.toJson.asTree), ("right", right.toDocument.toJson.asTree)] =
        (join op left right).toJson
    rw [op.operatorName_key, ihl, ihr]
    rfl
  | field name value cmp =>
    cases cmp with
    | none => exact asTree_literal name value
    | some c =>
      have hfield : (field name value (some c)).toDocument.toJson.asTree =
          object [("type", string "field"), ("name", string name),
            ("value", (Value.ofLiteral value).toJson), ("cmp", string (operatorName c.key))] :=
        if_pos c.key_mem
      rw [hfield, c.operatorName_key]
      rfl
  | variableMatch input p => rfl
  | variableCompare input value cmp => rfl

/-- The document of a query is shown as the fold of its tree, and two queries have the same
document, as it is shown, exactly if they have the same tree, as it is shown. -/
theorem toJson_toDocument (q : Query) :
    q.toDocument.toJson = q.toJson.asDocument ∧
      ∀ p : Query, p.toDocument.toJson = q.toDocument.toJson ↔ p.toJson = q.toJson := by
  refine ⟨q.asDocument_toJson.symm, fun p => ⟨fun h => ?_, fun h => ?_⟩⟩
  · rw [← p.asTree_toDocument, h, q.asTree_toDocument]
  · rw [← p.asDocument_toJson, h, q.asDocument_toJson]

end Query

end FilterQuery
