import FilterQuery.Document.Json
import FilterQuery.Proofs.ProperTrees

/-!
# The shape of documents

Whatever a user writes, the document of an accepted query has one of five shapes, with parts of the
same shapes under a connective. The keys that start with a dollar sign are therefore those of the
operators, a name that the user has chosen is a key only where a field stands, and no part of the
document is missing from its JSON.
-/

namespace FilterQuery

/-- The values that a name is compared with. -/
inductive Scalar : Value → Prop where
  | boolean {b : Bool} : Scalar (.boolean b)
  | number {x : Double} : x.isFinite = true → Scalar (.double x)
  | string {s : String} : Scalar (.string s)
  | date {t : Instant} : Scalar (.date t)
  | objectId {id : ObjectId} : Scalar (.objectId id)
  | regex {p : Pattern} : (Pattern.compile? p.ignoreCase p.source).isSome → Scalar (.regex p)

def connectiveKeys : List String := ["$and", "$or"]

/-- The keys of the comparisons of a field. -/
def comparatorKeys : List String := ["$gt", "$lt", "$gte", "$lte", "$ne"]

/-- The keys of the comparisons of a variable. -/
def aggregateKeys : List String := "$eq" :: comparatorKeys

/-- The keys that stand for operators. -/
def operatorKeys : List String := connectiveKeys ++ aggregateKeys ++ ["$regexMatch"]

/-- The shapes of documents. -/
inductive Shaped : Document → Prop where
  | connective {key : String} {left right : Document} :
      key ∈ connectiveKeys → Shaped left → Shaped right →
      Shaped (.single key (.array [left.toValue, right.toValue]))
  | equality {name : String} {v : Value} : FieldName name → Scalar v → Shaped (.single name v)
  | comparison {name key : String} {v : Value} :
      FieldName name → key ∈ comparatorKeys → Scalar v →
      Shaped (.single name (.document [(key, v)]))
  | aggregate {name key : String} {v : Value} :
      FieldName name → key ∈ aggregateKeys → Scalar v → (∀ p, v ≠ .regex p) →
      Shaped (.single key (.array [.string ("$$" ++ name), v]))
  | regexMatch {name : String} {p : Pattern} :
      FieldName name → (Pattern.compile? p.ignoreCase p.source).isSome →
      Shaped (.single "$regexMatch"
        (.document [("input", .string ("$$" ++ name)), ("regex", .regex p)]))

lemma Literal.Finite.scalar {value : Literal} (h : value.Finite) :
    Scalar (Value.ofLiteral value) := by
  cases value with
  | boolean b => exact .boolean
  | number x => exact .number h
  | string s => exact .string
  | regex p => exact .regex p.compiles
  | date t => exact .date
  | objectId id => exact .objectId

lemma Value.ofLiteral_ne_regex {value : Literal} (h : ∀ p, value ≠ .regex p) (p : Pattern) :
    Value.ofLiteral value ≠ .regex p := by
  cases value with
  | regex p' => exact absurd rfl (h p')
  | _ => exact fun heq => Value.noConfusion heq

lemma Connective.key_mem (op : Connective) : op.key ∈ connectiveKeys := by
  cases op <;> decide

lemma Comparator.key_mem (c : Comparator) : c.key ∈ comparatorKeys := by
  cases c <;> decide

lemma comparisonKey_mem (cmp : Option Comparator) : comparisonKey cmp ∈ aggregateKeys := by
  cases cmp with
  | none => exact List.mem_cons_self
  | some c => exact List.mem_cons_of_mem _ c.key_mem

/-- By induction on the tree. -/
lemma Query.Proper.shaped {q : Query} (h : q.Proper Literal.Finite) : Shaped q.toDocument := by
  induction h with
  | join _ _ ihl ihr => exact .connective (Connective.key_mem _) ihl ihr
  | @field name value cmp hname hvalue =>
    cases cmp with
    | none => exact .equality hname hvalue.scalar
    | some c => exact .comparison hname c.key_mem hvalue.scalar
  | @variableMatch name p hname _ => exact .regexMatch hname p.compiles
  | variableCompare hname hvalue hregex =>
    exact .aggregate hname (comparisonKey_mem _) hvalue.scalar (Value.ofLiteral_ne_regex hregex)

/-! ### Keys -/

namespace Value

mutual

/-- The ways to the entries of a value at any depth, each of them as the keys that lead there. -/
def paths : Value → List (List String)
  | array items => itemPaths items
  | document entries => entryPaths entries
  | _ => []

def itemPaths : List Value → List (List String)
  | [] => []
  | v :: rest => v.paths ++ itemPaths rest

def entryPaths : List (String × Value) → List (List String)
  | [] => []
  | (key, v) :: rest => [key] :: v.paths.map (key :: ·) ++ entryPaths rest

end

end Value

def Document.paths (d : Document) : List (List String) :=
  d.toValue.paths

/-- The ways that lead to entries of shaped documents. The names of fields come after connectives
only, and only a comparator can come after a name. -/
inductive KeyPath : List String → Prop where
  | connective {key : String} : key ∈ connectiveKeys → KeyPath [key]
  | within {key : String} {path : List String} :
      key ∈ connectiveKeys → KeyPath path → KeyPath (key :: path)
  | field {name : String} : FieldName name → KeyPath [name]
  | comparator {name key : String} :
      FieldName name → key ∈ comparatorKeys → KeyPath [name, key]
  | aggregate {key : String} : key ∈ aggregateKeys → KeyPath [key]
  | regexMatch : KeyPath ["$regexMatch"]
  | argument {key : String} : key ∈ ["input", "regex"] → KeyPath ["$regexMatch", key]

lemma Scalar.paths_eq_nil {v : Value} (h : Scalar v) : v.paths = [] := by
  cases h <;> rfl

lemma Document.paths_single (key : String) (v : Value) :
    (Document.single key v).paths = [key] :: v.paths.map (key :: ·) :=
  List.append_nil _

/-- By induction on the shape, each key stands where it may. -/
lemma Shaped.keyPath {d : Document} (h : Shaped d) : ∀ path ∈ d.paths, KeyPath path := by
  induction h with
  | @connective key left right hkey _ _ ihl ihr =>
    have hparts : (Value.array [left.toValue, right.toValue]).paths =
        left.paths ++ right.paths := by
      simp only [Value.paths, Value.itemPaths, List.append_nil, Document.paths]
    intro path hpath
    rw [Document.paths_single, hparts, List.mem_cons, List.mem_map] at hpath
    obtain rfl | ⟨rest, hrest, rfl⟩ := hpath
    · exact .connective hkey
    · obtain hleft | hright := List.mem_append.mp hrest
      · exact .within hkey (ihl rest hleft)
      · exact .within hkey (ihr rest hright)
  | equality hname hv =>
    intro path hpath
    rw [Document.paths_single, hv.paths_eq_nil, List.map_nil, List.mem_singleton] at hpath
    rw [hpath]
    exact .field hname
  | @comparison name key v hname hkey hv =>
    have hentry : (Value.document [(key, v)]).paths = [[key]] := by
      simp only [Value.paths, Value.entryPaths, hv.paths_eq_nil, List.map_nil, List.append_nil]
    intro path hpath
    rw [Document.paths_single, hentry, List.mem_cons, List.map_singleton,
      List.mem_singleton] at hpath
    obtain rfl | rfl := hpath
    · exact .field hname
    · exact .comparator hname hkey
  | @aggregate name key v hname hkey hv hregex =>
    have hitems : (Value.array [.string ("$$" ++ name), v]).paths = [] := by
      simp only [Value.paths, Value.itemPaths, hv.paths_eq_nil, List.append_nil]
    intro path hpath
    rw [Document.paths_single, hitems, List.map_nil, List.mem_singleton] at hpath
    rw [hpath]
    exact .aggregate hkey
  | @regexMatch name p hname hcompiles =>
    have hentries :
        (Value.document [("input", .string ("$$" ++ name)), ("regex", .regex p)]).paths =
          [["input"], ["regex"]] := rfl
    intro path hpath
    rw [Document.paths_single, hentries, List.mem_cons, List.mem_map] at hpath
    obtain rfl | ⟨rest, hrest, rfl⟩ := hpath
    · exact .regexMatch
    · obtain rfl | rfl : rest = ["input"] ∨ rest = ["regex"] := by simpa using hrest
      · exact .argument (by decide)
      · exact .argument (by decide)

/-- A key of a shaped document that starts with a dollar sign is that of an operator. -/
lemma KeyPath.mem_operatorKeys {path : List String} (h : KeyPath path) :
    ∀ key ∈ path, key.toList.head? = some '$' → key ∈ operatorKeys := by
  have hconnective : ∀ key ∈ connectiveKeys, key ∈ operatorKeys := by decide
  have hcomparator : ∀ key ∈ comparatorKeys, key ∈ operatorKeys := by decide
  have haggregate : ∀ key ∈ aggregateKeys, key ∈ operatorKeys := by decide
  have hargument : ∀ key ∈ ["input", "regex"], key.toList.head? ≠ some '$' := by decide
  induction h with
  | connective hkey => simpa using fun _ => hconnective _ hkey
  | within hkey _ ih =>
    intro key hmem hdollar
    obtain rfl | hrest := List.mem_cons.mp hmem
    · exact hconnective _ hkey
    · exact ih key hrest hdollar
  | field hname => simpa using fun hdollar => absurd hdollar hname.head_ne
  | comparator hname hkey =>
    intro key hmem hdollar
    obtain rfl | rfl : key = _ ∨ key = _ := by simpa using hmem
    · exact absurd hdollar hname.head_ne
    · exact hcomparator _ hkey
  | aggregate hkey => simpa using fun _ => haggregate _ hkey
  | regexMatch => decide
  | argument hkey =>
    intro key hmem hdollar
    obtain rfl | rfl : key = _ ∨ key = _ := by simpa using hmem
    · decide
    · exact absurd hdollar (hargument _ hkey)

/-- No key of a shaped document is the name of a variable. -/
lemma KeyPath.not_variable {path : List String} (h : KeyPath path) :
    ∀ key ∈ path, Query.isVariable key.toList = false := by
  have hoperator : ∀ key ∈ operatorKeys, Query.isVariable key.toList = false := by decide
  intro key hkey
  by_cases hdollar : key.toList.head? = some '$'
  · exact hoperator key (h.mem_operatorKeys key hkey hdollar)
  · cases hcs : key.toList with
    | nil => rfl
    | cons c cs =>
      have hc : '$' ≠ c := by
        rintro rfl
        rw [hcs] at hdollar
        exact hdollar rfl
      simp [Query.isVariable, List.isPrefixOf, hc]

/-! ### JSON -/

namespace Json

mutual

/-- Whether a null stands anywhere in a value. -/
def hasNull : Json → Bool
  | null => true
  | array items => itemsHaveNull items
  | object members => membersHaveNull members
  | _ => false

def itemsHaveNull : List Json → Bool
  | [] => false
  | v :: rest => v.hasNull || itemsHaveNull rest

def membersHaveNull : List (String × Json) → Bool
  | [] => false
  | (_, v) :: rest => v.hasNull || membersHaveNull rest

end

lemma hasNull_ofDouble {x : Double} (h : x.isFinite = true) : (ofDouble x).hasNull = false := by
  unfold ofDouble
  split
  · rfl
  · rw [dif_pos h]
    rfl

end Json

lemma Scalar.hasNull_toJson {v : Value} (h : Scalar v) : v.toJson.hasNull = false := by
  cases h with
  | number hx => exact Json.hasNull_ofDouble hx
  | _ => rfl

lemma Document.hasNull_toJson_single (key : String) (v : Value) :
    (Document.single key v).toJson.hasNull = v.toJson.hasNull :=
  Bool.or_false _

/-- By induction on the shape, the JSON of a shaped document is complete. -/
lemma Shaped.hasNull_toJson {d : Document} (h : Shaped d) : d.toJson.hasNull = false := by
  induction h with
  | @connective key left right hkey _ _ ihl ihr =>
    have hitems : (Value.array [left.toValue, right.toValue]).toJson.hasNull =
        (left.toJson.hasNull || (right.toJson.hasNull || false)) := rfl
    rw [Document.hasNull_toJson_single, hitems, ihl, ihr]
    rfl
  | equality hname hv => rw [Document.hasNull_toJson_single, hv.hasNull_toJson]
  | @comparison name key v hname hkey hv =>
    have hentry : (Value.document [(key, v)]).toJson.hasNull = (v.toJson.hasNull || false) := rfl
    rw [Document.hasNull_toJson_single, hentry, hv.hasNull_toJson]
    rfl
  | @aggregate name key v hname hkey hv hregex =>
    have hitems : (Value.array [.string ("$$" ++ name), v]).toJson.hasNull =
        (v.toJson.hasNull || false) := rfl
    rw [Document.hasNull_toJson_single, hitems, hv.hasNull_toJson]
    rfl
  | regexMatch => rfl

/-- The document of an accepted query is shaped. In it, every key stands where its kind may, no key
but that of an operator starts with a dollar sign, no variable is a key, and its JSON has no
null. -/
theorem shaped_of_ofText {text : String} {d : Document} (h : Document.ofText text = .ok d) :
    Shaped d ∧ (∀ path ∈ d.paths, KeyPath path) ∧
      (∀ path ∈ d.paths, ∀ key ∈ path, key.toList.head? = some '$' → key ∈ operatorKeys) ∧
      (∀ path ∈ d.paths, ∀ key ∈ path, Query.isVariable key.toList = false) ∧
      d.toJson.hasNull = false := by
  unfold Document.ofText at h
  cases hparse : Query.parse text with
  | error e =>
    rw [hparse] at h
    cases h
  | ok q =>
    rw [hparse] at h
    cases h
    have hshaped := (Query.proper_of_parse hparse).shaped
    have hpath := hshaped.keyPath
    exact ⟨hshaped, hpath, fun path hmem => (hpath path hmem).mem_operatorKeys,
      fun path hmem => (hpath path hmem).not_variable, hshaped.hasNull_toJson⟩

/-- A variable and a string that look like operators, and a field with the name of one. -/
theorem shaped_of_ofText_operatorName :
    ∃ d, Document.ofText "$$gt != '$or' and gt: no" = .ok d ∧ Shaped d ∧
      d.toJson.hasNull = false := by
  have hparse : Query.parse "$$gt != '$or' and gt: no" =
      .ok (.join .and (.variableCompare "$$gt" (.string "$or") (some .ne))
        (.field "gt" (.boolean false) none)) := by
    decide +kernel
  have htext : Document.ofText "$$gt != '$or' and gt: no" =
      .ok (Query.join .and (.variableCompare "$$gt" (.string "$or") (some .ne))
        (.field "gt" (.boolean false) none)).toDocument := by
    rw [Document.ofText, hparse]
    rfl
  have hshaped := shaped_of_ofText htext
  exact ⟨_, htext, hshaped.1, hshaped.2.2.2.2⟩

end FilterQuery
