import FilterQuery.Document.OfQuery
import Mathlib.Tactic.Lemma
import Mathlib.Tactic.SplitIfs

/-!
# The queries of documents

`Query.ofDocument?` leads from the document of a query back to the query. A name may be that of an
operator, and an input need not have dollar signs, so the keys of a document say little: the kind of
the value under a key tells which constructor the document comes from. The document of a query
therefore determines the query, down to the bits of its numbers.
-/

namespace FilterQuery

/-! ### Keys -/

namespace Connective

def ofKey? : String → Option Connective
  | "$and" => some and
  | "$or" => some or
  | _ => none

lemma ofKey?_eq_some_iff {key : String} {op : Connective} :
    ofKey? key = some op ↔ op.key = key := by
  constructor
  · intro h
    unfold ofKey? at h
    split at h <;> cases h <;> rfl
  · rintro rfl
    cases op <;> rfl

end Connective

namespace Comparator

def ofKey? : String → Option Comparator
  | "$gt" => some gt
  | "$lt" => some lt
  | "$gte" => some gte
  | "$lte" => some lte
  | "$ne" => some ne
  | _ => none

lemma ofKey?_eq_some_iff {key : String} {c : Comparator} :
    ofKey? key = some c ↔ c.key = key := by
  constructor
  · intro h
    unfold ofKey? at h
    split at h <;> cases h <;> rfl
  · rintro rfl
    cases c <;> rfl

end Comparator

/-- The comparison of a key under which operands stand in a list. -/
def comparisonOfKey? (key : String) : Option (Option Comparator) :=
  if key = "$eq" then some none else (Comparator.ofKey? key).map some

lemma comparisonOfKey?_eq_some_iff {key : String} {cmp : Option Comparator} :
    comparisonOfKey? key = some cmp ↔ comparisonKey cmp = key := by
  unfold comparisonOfKey?
  split_ifs with heq
  · subst heq
    cases cmp with
    | none => exact iff_of_true rfl rfl
    | some c => cases c <;> exact iff_of_false (by decide) (by decide)
  · rw [Option.map_eq_some_iff]
    cases cmp with
    | none => exact iff_of_false (fun ⟨_, _, h⟩ => nomatch h) fun h => heq h.symm
    | some c =>
      rw [comparisonKey, ← Comparator.ofKey?_eq_some_iff]
      constructor
      · rintro ⟨_, h, ⟨⟩⟩
        exact h
      · exact fun h => ⟨c, h, rfl⟩

/-! ### Values -/

namespace Value

/-- The literal that a value stands for, unless it is an array or a document. -/
def toLiteral? : Value → Option Literal
  | boolean b => some (.boolean b)
  | double x => some (.number x)
  | string s => some (.string s)
  | regex p => some (.regex p)
  | date t => some (.date t)
  | objectId id => some (.objectId id)
  | array _ | document _ => none

lemma toLiteral?_ofLiteral (value : Literal) : (ofLiteral value).toLiteral? = some value := by
  cases value <;> rfl

lemma toLiteral?_eq_some_iff {v : Value} {value : Literal} :
    v.toLiteral? = some value ↔ ofLiteral value = v := by
  constructor
  · intro h
    cases v <;> cases h <;> rfl
  · rintro rfl
    exact toLiteral?_ofLiteral value

def isDocument : Value → Bool
  | document _ => true
  | _ => false

mutual

/-- The arrays of documents in a value, at any depth, each with the key that it stands under. -/
def documentArrays : Value → List (String × List Value)
  | array items => itemArrays items
  | document entries => entryArrays entries
  | _ => []

def itemArrays : List Value → List (String × List Value)
  | [] => []
  | v :: rest => v.documentArrays ++ itemArrays rest

def entryArrays : List (String × Value) → List (String × List Value)
  | [] => []
  | (key, v) :: rest =>
    (match v with
      | array items => if items.all isDocument then [(key, items)] else []
      | _ => []) ++ v.documentArrays ++ entryArrays rest

end

end Value

/-! ### Documents -/

namespace Query

/-- The query of a document. Where there is one entry, two documents in an array are the sides of a
connective, a string and a value in an array the operands of a comparison, and one entry with the
key of a comparator in a document the comparison of a field. -/
def ofValue? : Value → Option Query
  | .document [(key, .array [.document left, .document right])] => do
    some (.join (← Connective.ofKey? key) (← ofValue? (.document left))
      (← ofValue? (.document right)))
  | .document [(key, .array [.string input, v])] => do
    some (.variableCompare input (← v.toLiteral?) (← comparisonOfKey? key))
  | .document [(key, .document [("input", .string input), ("regex", .regex p)])] =>
    if key = regexMatchKey then some (.variableMatch input p) else none
  | .document [(name, .document [(key, v)])] => do
    some (.field name (← v.toLiteral?) (some (← Comparator.ofKey? key)))
  | .document [(name, v)] => do some (.field name (← v.toLiteral?) none)
  | _ => none

/-- By induction on the tree, with the kind of the value under the key in every case. -/
lemma ofValue?_toValue (q : Query) : ofValue? q.toDocument.toValue = some q := by
  induction q with
  | join op left right ihl ihr =>
    have hread : ofValue? (join op left right).toDocument.toValue =
        (Connective.ofKey? op.key).bind fun op => (ofValue? left.toDocument.toValue).bind
          fun left => (ofValue? right.toDocument.toValue).bind fun right =>
            some (join op left right) := rfl
    rw [hread, ihl, ihr, Connective.ofKey?_eq_some_iff.mpr rfl]
    rfl
  | field name value cmp =>
    cases cmp with
    | none => cases value <;> rfl
    | some c => cases value <;> cases c <;> rfl
  | variableMatch input p => rfl
  | variableCompare input value cmp =>
    have hread : ofValue? (variableCompare input value cmp).toDocument.toValue =
        (Value.ofLiteral value).toLiteral?.bind fun value =>
          (comparisonOfKey? (comparisonKey cmp)).bind fun cmp =>
            some (variableCompare input value cmp) := by
      cases value <;> rfl
    rw [hread, Value.toLiteral?_ofLiteral, comparisonOfKey?_eq_some_iff.mpr rfl]
    rfl

/-- What is read as a query is its document. -/
lemma toValue_of_ofValue? {v : Value} {q : Query} (h : ofValue? v = some q) :
    q.toDocument.toValue = v := by
  fun_induction ofValue? v generalizing q with
  | case1 key left right ihl ihr =>
    simp only [Option.bind_eq_bind, Option.bind_eq_some_iff] at h
    obtain ⟨op, hop, l, hl, r, hr, ⟨⟩⟩ := h
    change Value.document [(op.key, .array [l.toDocument.toValue, r.toDocument.toValue])] = _
    rw [ihl hl, ihr hr, Connective.ofKey?_eq_some_iff.mp hop]
  | case2 key input v =>
    simp only [Option.bind_eq_bind, Option.bind_eq_some_iff] at h
    obtain ⟨value, hvalue, cmp, hcmp, ⟨⟩⟩ := h
    change Value.document [(comparisonKey cmp, .array [.string input, .ofLiteral value])] = _
    rw [Value.toLiteral?_eq_some_iff.mp hvalue, comparisonOfKey?_eq_some_iff.mp hcmp]
  | case3 input p =>
    cases h
    rfl
  | case4 => cases h
  | case5 name key v =>
    simp only [Option.bind_eq_bind, Option.bind_eq_some_iff] at h
    obtain ⟨value, hvalue, c, hc, ⟨⟩⟩ := h
    change Value.document [(name, .document [(c.key, .ofLiteral value)])] = _
    rw [Value.toLiteral?_eq_some_iff.mp hvalue, Comparator.ofKey?_eq_some_iff.mp hc]
  | case6 name v =>
    simp only [Option.bind_eq_bind, Option.bind_eq_some_iff] at h
    obtain ⟨value, hvalue, ⟨⟩⟩ := h
    change Value.document [(name, .ofLiteral value)] = _
    rw [Value.toLiteral?_eq_some_iff.mp hvalue]
  | case7 => cases h

def ofDocument? (d : Document) : Option Query :=
  ofValue? d.toValue

/-- A document is read as a query exactly if it is the document of the query. -/
theorem ofDocument?_eq_some_iff {d : Document} {q : Query} :
    ofDocument? d = some q ↔ q.toDocument = d := by
  constructor
  · intro h
    have hvalue := toValue_of_ofValue? h
    cases d
    cases hq : q.toDocument
    rw [hq] at hvalue
    cases hvalue
    rfl
  · rintro rfl
    exact ofValue?_toValue q

/-- The connectives of a query with their two sides, the outer ones first. -/
def joins : Query → List (Connective × Query × Query)
  | join op left right => (op, left, right) :: (left.joins ++ right.joins)
  | _ => []

/-- By induction on the tree: only a connective makes an array of documents. -/
lemma documentArrays_toDocument (q : Query) :
    q.toDocument.toValue.documentArrays = q.joins.map fun (op, left, right) =>
      (op.key, [left.toDocument.toValue, right.toDocument.toValue]) := by
  induction q with
  | join op left right ihl ihr =>
    have harrays : (join op left right).toDocument.toValue.documentArrays =
        (op.key, [left.toDocument.toValue, right.toDocument.toValue]) ::
          (left.toDocument.toValue.documentArrays ++
            (right.toDocument.toValue.documentArrays ++ []) ++ []) := rfl
    rw [harrays, ihl, ihr, joins, List.map_cons, List.map_append, List.append_nil, List.append_nil]
  | field name value cmp => cases cmp <;> cases value <;> rfl
  | variableMatch input p => rfl
  | variableCompare input value cmp => cases value <;> rfl

lemma size_toDocument (q : Query) : q.toDocument.size = 1 := by
  cases q with
  | field name value cmp => cases cmp <;> rfl
  | _ => rfl

/-- Nothing of a query is lost in its document, whatever its names and literals are: the query is
read off the document, and no other query has the same one. The document has one entry, and its
arrays of documents are those of the connectives, with the documents of the two sides in order. -/
theorem ofDocument?_toDocument (q : Query) :
    ofDocument? q.toDocument = some q ∧ (∀ p : Query, p.toDocument = q.toDocument → p = q) ∧
      q.toDocument.size = 1 ∧
      q.toDocument.toValue.documentArrays = q.joins.map fun (op, left, right) =>
        (op.key, [left.toDocument.toValue, right.toDocument.toValue]) := by
  have hread : ofDocument? q.toDocument = some q := ofDocument?_eq_some_iff.mpr rfl
  refine ⟨hread, fun p hp => ?_, size_toDocument q, documentArrays_toDocument q⟩
  have hother : ofDocument? q.toDocument = some p := ofDocument?_eq_some_iff.mpr hp
  rw [hread] at hother
  exact (Option.some.inj hother).symm

/-- The names are those of operators, and the variable has no dollar signs. -/
example : ofDocument? (join .or (variableCompare "$and" (.boolean true) (some .ne))
    (field "$or" (.string "$eq") none)).toDocument =
    some (join .or (variableCompare "$and" (.boolean true) (some .ne))
      (field "$or" (.string "$eq") none)) := by
  decide +kernel

end Query

end FilterQuery
