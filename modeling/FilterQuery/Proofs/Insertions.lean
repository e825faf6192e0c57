import FilterQuery.Proofs.ExtendedJson

/-!
# Documents as maps

A document is made by insertions, one by one or from a list. However it is made, it is the map that
the inserted pairs describe, and it remembers in which order its keys came first. Since no key comes
twice, the conversion to JSON, which again inserts into a map, merges nothing.
-/

namespace FilterQuery

section Entries

variable {α : Type} {key : String} {entries : List (String × α)}

lemma insertEntry_of_notMem (value : α) (h : key ∉ entries.map (·.1)) :
    insertEntry key value entries = entries ++ [(key, value)] := by
  induction entries with
  | nil => rfl
  | cons e rest ih =>
    rw [List.map_cons, List.mem_cons, not_or] at h
    rw [insertEntry, if_neg (Ne.symm h.1), ih h.2, List.cons_append]

lemma insertEntry_of_mem (value : α) (h : key ∈ entries.map (·.1)) :
    ∃ before old after, entries = before ++ (key, old) :: after ∧
      insertEntry key value entries = before ++ (key, value) :: after := by
  induction entries with
  | nil => cases h
  | cons e rest ih =>
    obtain ⟨k, v⟩ := e
    by_cases hk : k = key
    · subst hk
      exact ⟨[], v, rest, rfl, by rw [insertEntry, if_pos rfl, List.nil_append]⟩
    · have hrest : key ∈ rest.map (·.1) := by
        obtain heq | hrest := List.mem_cons.mp h
        · exact absurd heq.symm hk
        · exact hrest
      obtain ⟨before, old, after, rfl, hinsert⟩ := ih hrest
      exact ⟨(k, v) :: before, old, after, rfl, by rw [insertEntry, if_neg hk, hinsert,
        List.cons_append]⟩

lemma lookup_cons_eq_ite (k l : String) (v : α) :
    ((l, v) :: entries).lookup k = if k = l then some v else entries.lookup k := by
  by_cases h : k = l
  · rw [h, List.lookup_cons_self, if_pos rfl]
  · rw [List.lookup_cons, beq_false_of_ne h, if_neg h]

lemma lookup_insertEntry (value : α) (k : String) :
    (insertEntry key value entries).lookup k =
      if k = key then some value else entries.lookup k := by
  induction entries with
  | nil => rw [insertEntry, lookup_cons_eq_ite]
  | cons e rest ih =>
    obtain ⟨l, v⟩ := e
    rw [insertEntry, lookup_cons_eq_ite]
    by_cases hl : l = key
    · rw [if_pos hl, lookup_cons_eq_ite, hl]
      split_ifs <;> rfl
    · rw [if_neg hl, lookup_cons_eq_ite, ih]
      by_cases hk : k = l
      · rw [if_pos hk, if_pos hk, if_neg fun h => hl (hk.symm.trans h)]
      · rw [if_neg hk, if_neg hk]

/-- Each entry is found under its key if no other entry has the key. -/
lemma lookup_of_mem (h : (entries.map (·.1)).Nodup) {e : String × α} (he : e ∈ entries) :
    entries.lookup e.1 = some e.2 := by
  induction entries with
  | nil => cases he
  | cons f rest ih =>
    rw [List.map_cons, List.nodup_cons] at h
    rw [lookup_cons_eq_ite]
    obtain rfl | hrest := List.mem_cons.mp he
    · rw [if_pos rfl]
    · have hne : e.1 ≠ f.1 := by
        intro heq
        apply h.1
        exact List.mem_map.mpr ⟨e, hrest, heq⟩
      rw [if_neg hne, ih h.2 hrest]

/-- Entries with distinct keys are what comes of inserting them one after the other. -/
lemma foldl_insertEntry (h : (entries.map (·.1)).Nodup) :
    entries.foldl (fun es e => insertEntry e.1 e.2 es) [] = entries := by
  induction entries using List.reverseRecOn with
  | nil => rfl
  | append_singleton rest e ih =>
    rw [List.map_append, List.nodup_append] at h
    have hkey : e.1 ∉ rest.map (·.1) :=
      fun hmem => h.2.2 _ hmem _ (List.mem_singleton_self _) rfl
    rw [List.foldl_append, ih h.1, List.foldl_cons, List.foldl_nil, insertEntry_of_notMem _ hkey]

end Entries

namespace Document

variable {d : Document} {pairs : List (String × Value)}

/-- A document, and the pairs that were inserted to make it, in their order. -/
inductive Made : List (String × Value) → Document → Prop where
  | empty : Made [] .empty
  | ofList (pairs : List (String × Value)) : Made pairs (.ofList pairs)
  | insert {pairs : List (String × Value)} {d : Document} (h : Made pairs d) (key : String)
      (value : Value) : Made (pairs ++ [(key, value)]) (d.insert key value)

/-- All the values that came under a key, in the order in which they came. -/
def valuesUnder (key : String) (pairs : List (String × Value)) : List Value :=
  (pairs.filter fun p => p.1 = key).map (·.2)

/-- The document is the map of the pairs, ordered by when each key came first. -/
structure MapOf (pairs : List (String × Value)) (d : Document) : Prop where
  keys_nodup : d.keys.Nodup
  mem_keys : ∀ key, key ∈ d.keys ↔ key ∈ pairs.map (·.1)
  keys_pairwise : d.keys.Pairwise fun k l =>
    (pairs.map (·.1)).idxOf k < (pairs.map (·.1)).idxOf l
  get?_eq : ∀ key, d.get? key = (valuesUnder key pairs).getLast?
  entries_eq : d.entries.map some = d.keys.map fun key => (d.get? key).map (key, ·)
  size_eq : d.size = (pairs.map (·.1)).toFinset.card
  size_eq_zero : d.size = 0 ↔ pairs = []

/-! ### Insertion -/

lemma keys_insert (d : Document) (key : String) (value : Value) :
    (d.insert key value).keys = if key ∈ d.keys then d.keys else d.keys ++ [key] :=
  keys_insertEntry key value d.entries

lemma get?_insert (d : Document) (key : String) (value : Value) (k : String) :
    (d.insert key value).get? k = if k = key then some value else d.get? k :=
  lookup_insertEntry value k

/-- An entry that is there keeps its place. -/
lemma entries_insert_of_mem {key : String} (h : key ∈ d.keys) (value : Value) :
    ∃ before old after, d.entries = before ++ (key, old) :: after ∧
      (d.insert key value).entries = before ++ (key, value) :: after :=
  insertEntry_of_mem value h

lemma valuesUnder_append_singleton (key : String) (p : String × Value) :
    valuesUnder key (pairs ++ [p]) =
      if p.1 = key then valuesUnder key pairs ++ [p.2] else valuesUnder key pairs := by
  by_cases hp : p.1 = key <;> simp [valuesUnder, hp]

lemma map_some_entries (d : Document) :
    d.entries.map some = d.keys.map fun key => (d.get? key).map (key, ·) := by
  rw [keys, List.map_map]
  apply List.map_congr_left
  intro e he
  simp only [Function.comp_apply, get?, lookup_of_mem d.keys_nodup he, Option.map_some]

/-- Keys that stand in the order in which they come first in a list stay in that order when the list
grows by one, and a key that is new comes last. -/
lemma pairwise_idxOf_concat {keys inserted : List String} (key : String)
    (hmem : ∀ k, k ∈ keys ↔ k ∈ inserted)
    (h : keys.Pairwise fun k l => inserted.idxOf k < inserted.idxOf l) :
    (if key ∈ keys then keys else keys ++ [key]).Pairwise fun k l =>
      (inserted ++ [key]).idxOf k < (inserted ++ [key]).idxOf l := by
  have hidx {k : String} (hk : k ∈ keys) : (inserted ++ [key]).idxOf k = inserted.idxOf k :=
    List.idxOf_append_of_mem ((hmem k).mp hk)
  have hold : keys.Pairwise fun k l =>
      (inserted ++ [key]).idxOf k < (inserted ++ [key]).idxOf l := by
    apply h.imp_of_mem
    intro k l hk hl hlt
    rwa [hidx hk, hidx hl]
  split_ifs with hkey
  · exact hold
  · apply List.pairwise_append.mpr
    refine ⟨hold, List.pairwise_singleton _ _, fun k hk l hl => ?_⟩
    rw [List.mem_singleton.mp hl, hidx hk,
      List.idxOf_append_of_notMem (mt (hmem key).mpr hkey)]
    exact (List.idxOf_lt_length_of_mem ((hmem k).mp hk)).trans_le (Nat.le_add_right _ _)

namespace MapOf

lemma empty : MapOf [] .empty where
  keys_nodup := List.nodup_nil
  mem_keys _ := Iff.rfl
  keys_pairwise := List.Pairwise.nil
  get?_eq _ := rfl
  entries_eq := rfl
  size_eq := rfl
  size_eq_zero := ⟨fun _ => rfl, fun _ => rfl⟩

/-- What one insertion does to each part of the map. -/
lemma insert (h : MapOf pairs d) (key : String) (value : Value) :
    MapOf (pairs ++ [(key, value)]) (d.insert key value) := by
  have hmem (k : String) :
      k ∈ (d.insert key value).keys ↔ k ∈ (pairs ++ [(key, value)]).map (·.1) := by
    rw [keys_insert, List.map_append, List.mem_append, ← h.mem_keys k]
    split_ifs with hkey
    · exact ⟨.inl, fun hk => hk.elim id fun hk => (List.mem_singleton.mp hk) ▸ hkey⟩
    · exact List.mem_append
  have hnodup := (d.insert key value).keys_nodup
  have hsize : (d.insert key value).size =
      ((pairs ++ [(key, value)]).map (·.1)).toFinset.card := by
    have hkeys : (d.insert key value).keys.toFinset =
        ((pairs ++ [(key, value)]).map (·.1)).toFinset := by
      ext k
      rw [List.mem_toFinset, List.mem_toFinset, hmem]
    rw [← hkeys]
    exact (List.length_map _).symm.trans (List.toFinset_card_of_nodup hnodup).symm
  exact {
    keys_nodup := hnodup
    mem_keys := hmem
    keys_pairwise := by
      rw [keys_insert, List.map_append]
      exact pairwise_idxOf_concat key h.mem_keys h.keys_pairwise
    get?_eq := fun k => by
      rw [get?_insert, valuesUnder_append_singleton, h.get?_eq]
      by_cases hk : k = key
      · rw [if_pos hk, if_pos hk.symm, List.getLast?_concat]
      · rw [if_neg hk, if_neg (Ne.symm hk)]
    entries_eq := map_some_entries _
    size_eq := hsize
    size_eq_zero := by
      rw [hsize, Finset.card_eq_zero, List.toFinset_eq_empty_iff]
      simp }

end MapOf

/-! ### Documents however made -/

lemma ofList_append_singleton (pairs : List (String × Value)) (p : String × Value) :
    ofList (pairs ++ [p]) = (ofList pairs).insert p.1 p.2 := by
  rw [ofList, List.foldl_append, List.foldl_cons, List.foldl_nil, ofList]

/-- By induction on the insertions. -/
lemma mapOf_ofList (pairs : List (String × Value)) : MapOf pairs (ofList pairs) := by
  induction pairs using List.reverseRecOn with
  | nil => exact .empty
  | append_singleton pairs p ih =>
    rw [ofList_append_singleton]
    exact ih.insert p.1 p.2

lemma Made.mapOf (h : Made pairs d) : MapOf pairs d := by
  induction h with
  | empty => exact .empty
  | ofList pairs => exact mapOf_ofList pairs
  | insert _ key value ih => exact ih.insert key value

lemma valuesUnder_subset {v : Value} {key : String} (h : v ∈ valuesUnder key pairs) :
    (key, v) ∈ pairs := by
  obtain ⟨p, hp, rfl⟩ := List.mem_map.mp h
  obtain ⟨hmem, hkey⟩ := List.mem_filter.mp hp
  rwa [← of_decide_eq_true hkey]

/-- The entries of a document are among the pairs that were inserted. -/
lemma MapOf.mem_of_mem_entries (h : MapOf pairs d) {e : String × Value} (he : e ∈ d.entries) :
    e ∈ pairs := by
  have hsome : some e ∈ d.keys.map fun key => (d.get? key).map (key, ·) := by
    rw [← h.entries_eq]
    exact List.mem_map_of_mem he
  obtain ⟨key, -, hget⟩ := List.mem_map.mp hsome
  obtain ⟨v, hv, rfl⟩ := Option.map_eq_some_iff.mp hget
  rw [h.get?_eq] at hv
  exact valuesUnder_subset (List.mem_of_getLast? hv)

end Document

/-! ### Conversion to JSON -/

namespace Value

/-- A value in which each document was made by insertions. -/
inductive Built : Value → Prop where
  | literal (value : Literal) : Built (.ofLiteral value)
  | array {items : List Value} : (∀ v ∈ items, Built v) → Built (.array items)
  | document {pairs : List (String × Value)} {d : Document} :
      d.Made pairs → (∀ p ∈ pairs, Built p.2) → Built d.toValue

mutual

/-- The conversion by which the members of an object are inserted into a map one after the other, so
that members with one key would become one. -/
def collectJson : Value → Json
  | array items => .array (collectItems items)
  | document entries =>
    .object ((collectEntries entries).foldl (fun ms m => insertEntry m.1 m.2 ms) [])
  | scalar => scalar.toJson

def collectItems : List Value → List Json
  | [] => []
  | v :: rest => v.collectJson :: collectItems rest

def collectEntries : List (String × Value) → List (String × Json)
  | [] => []
  | (key, v) :: rest => (key, v.collectJson) :: collectEntries rest

end

/-- The documents in a value and the objects in its JSON have the same keys in the same order. -/
inductive SameKeys : Value → Json → Prop where
  | literal (value : Literal) : SameKeys (.ofLiteral value) (Value.ofLiteral value).toJson
  | array {items : List Value} {js : List Json} :
      List.Forall₂ SameKeys items js → SameKeys (.array items) (.array js)
  | document {entries : List (String × Value)} {members : List (String × Json)} :
      entries.map (·.1) = members.map (·.1) →
      List.Forall₂ SameKeys (entries.map (·.2)) (members.map (·.2)) →
      SameKeys (.document entries) (.object members)

lemma collectItems_eq (items : List Value) : collectItems items = items.map collectJson := by
  induction items with
  | nil => rfl
  | cons v rest ih => rw [collectItems, ih, List.map_cons]

lemma collectEntries_eq (entries : List (String × Value)) :
    collectEntries entries = entries.map fun e => (e.1, e.2.collectJson) := by
  induction entries with
  | nil => rfl
  | cons e rest ih => rw [collectEntries, ih, List.map_cons]

lemma Built.collectJson_eq {v : Value} (h : Built v) : v.collectJson = v.toJson := by
  induction h with
  | literal value => cases value <;> rfl
  | array _ ih =>
    rw [collectJson, toJson, collectItems_eq, itemsToJson_eq, List.map_congr_left ih]
  | @document pairs d hmade _ ih =>
    have hentries : collectEntries d.entries = entriesToJson d.entries := by
      rw [collectEntries_eq, entriesToJson_eq]
      apply List.map_congr_left
      intro e he
      rw [ih e (hmade.mapOf.mem_of_mem_entries he)]
    have hnodup : ((entriesToJson d.entries).map (·.1)).Nodup := by
      rw [entriesToJson_eq, List.map_map]
      exact d.keys_nodup
    rw [Document.toValue, collectJson, toJson, hentries, foldl_insertEntry hnodup]

lemma Built.sameKeys {v : Value} (h : Built v) : SameKeys v v.toJson := by
  induction h with
  | literal value => exact .literal value
  | array _ ih =>
    rw [toJson, itemsToJson_eq]
    exact .array (List.forall₂_map_right_iff.mpr (List.forall₂_same.mpr ih))
  | @document pairs d hmade _ ih =>
    rw [Document.toValue, toJson, entriesToJson_eq]
    apply SameKeys.document
    · rw [List.map_map]
      rfl
    · rw [List.map_map, List.forall₂_map_left_iff, List.forall₂_map_right_iff, List.forall₂_same]
      exact fun e he => ih e (hmade.mapOf.mem_of_mem_entries he)

end Value

namespace Document

variable {d : Document} {pairs : List (String × Value)}

/-- A document is the map of the pairs that were inserted. Inserting under a key that is there
replaces the value in its place. In JSON it has the same keys in the same order, at every level,
also if the members are inserted into a map. -/
theorem mapOf_of_made (h : d.Made pairs) :
    d.MapOf pairs ∧
      (∀ key ∈ d.keys, ∀ value, ∃ before old after, d.entries = before ++ (key, old) :: after ∧
        (d.insert key value).entries = before ++ (key, value) :: after) ∧
      ((∀ p ∈ pairs, p.2.Built) →
        d.toValue.collectJson = d.toJson ∧ d.toValue.SameKeys d.toJson) := by
  refine ⟨h.mapOf, fun key hkey value => entries_insert_of_mem hkey value, fun hbuilt => ?_⟩
  have hvalue : d.toValue.Built := .document h hbuilt
  exact ⟨hvalue.collectJson_eq, hvalue.sameKeys⟩

/-- A key that is inserted twice, around another one. -/
theorem mapOf_of_made_twice :
    ∃ d, Made [("a", .boolean true), ("b", .string "x"), ("a", .boolean false)] d ∧
      d.keys = ["a", "b"] ∧
      d.MapOf [("a", .boolean true), ("b", .string "x"), ("a", .boolean false)] ∧
      d.toValue.collectJson = d.toJson := by
  have hmade : Made ([("a", .boolean true), ("b", .string "x")] ++ [("a", .boolean false)])
      ((ofList [("a", .boolean true), ("b", .string "x")]).insert "a" (.boolean false)) :=
    .insert (.ofList _) "a" (.boolean false)
  obtain ⟨hmap, -, hjson⟩ := mapOf_of_made hmade
  refine ⟨_, hmade, rfl, hmap, (hjson fun p hp => ?_).1⟩
  simp only [List.cons_append, List.nil_append, List.mem_cons, List.not_mem_nil, or_false] at hp
  obtain rfl | rfl | rfl := hp
  · exact .literal (.boolean true)
  · exact .literal (.string "x")
  · exact .literal (.boolean false)

end Document

end FilterQuery
