import FilterQuery.Document.Json
import FilterQuery.Proofs.DocumentShape
import FilterQuery.Proofs.JsonText

/-!
# What JSON keeps of documents

The objects that stand for patterns, dates and identifiers have keys that no document of a query
has, and a finite number is an integer or a double but never both. The JSON text of a document
therefore determines the document, but for the sign of zero and the part of its dates below the
millisecond.
-/

namespace FilterQuery

open Text

/-! ### Numbers -/

namespace Double

/-- The two zeros made one. -/
def unsignedZero (x : Double) : Double :=
  if x.magnitude = 0 then zero else x

lemma units_injective {m n : ℕ} (h : units m = units n) : m = n :=
  (strictMono_nat_of_lt_succ units_lt_units_succ).injective h

lemma units_of_safeInteger? {x : Double} {n : ℤ} (h : x.safeInteger? = some n) :
    units x.magnitude = n.natAbs * unitsPerOne ∧ (n ≠ 0 → x.negative = decide (n < 0)) := by
  unfold safeInteger? at h
  simp only [Option.ite_none_right_eq_some, Bool.and_eq_true, beq_iff_eq, Option.some.injEq] at h
  obtain ⟨⟨⟨-, hexact⟩, -⟩, hn⟩ := h
  have hunits := Nat.div_mul_cancel (Nat.dvd_of_mod_eq_zero hexact)
  rw [← Int.natCast_ediv] at hn
  generalize units x.magnitude / unitsPerOne = k at hn hunits
  have hk : n.natAbs = k := by
    rw [← hn]
    split_ifs <;> omega
  refine ⟨by rw [hk, hunits], fun hzero => ?_⟩
  cases hnegative : x.negative <;> rw [hnegative] at hn
  · simp only [Bool.false_eq_true, if_false] at hn
    exact (decide_eq_false (by omega)).symm
  · simp only [if_true] at hn
    exact (decide_eq_true (by omega)).symm

/-- An integer has one form, but for zero, which has two. -/
lemma unsignedZero_eq_of_safeInteger? {x y : Double} {n : ℤ} (hx : x.safeInteger? = some n)
    (hy : y.safeInteger? = some n) : x.unsignedZero = y.unsignedZero := by
  obtain ⟨hxunits, hxsign⟩ := units_of_safeInteger? hx
  obtain ⟨hyunits, hysign⟩ := units_of_safeInteger? hy
  have hmagnitude : x.magnitude = y.magnitude := units_injective (hxunits.trans hyunits.symm)
  unfold unsignedZero
  rw [hmagnitude]
  split_ifs with hzero
  · rfl
  · have hn : n ≠ 0 := by
      rintro rfl
      have hpos := units_pos y.magnitude (Nat.pos_of_ne_zero hzero)
      rw [hyunits, Int.natAbs_zero, Nat.zero_mul] at hpos
      exact Nat.lt_irrefl 0 hpos
    have hsign : x.negative = y.negative := (hxsign hn).trans (hysign hn).symm
    cases x
    cases y
    cases hmagnitude
    cases hsign
    rfl

end Double

namespace Json

variable {x y : Double}

/-- A finite number has a form in JSON. -/
lemma ofDouble_of_finite (hx : x.isFinite = true) :
    (∃ n, x.safeInteger? = some n ∧ ofDouble x = integer n) ∨
      x.safeInteger? = none ∧ ofDouble x = number x hx := by
  unfold ofDouble
  cases hn : x.safeInteger? with
  | some n => exact .inl ⟨n, rfl, rfl⟩
  | none => exact .inr ⟨rfl, dif_pos hx⟩

lemma unsignedZero_eq_of_ofDouble (hx : x.isFinite = true) (hy : y.isFinite = true)
    (h : ofDouble x = ofDouble y) : x.unsignedZero = y.unsignedZero := by
  obtain ⟨n, hxn, hxjson⟩ | ⟨-, hxjson⟩ := ofDouble_of_finite hx
  · obtain ⟨m, hym, hyjson⟩ | ⟨-, hyjson⟩ := ofDouble_of_finite hy
    · rw [hxjson, hyjson] at h
      cases h
      exact Double.unsignedZero_eq_of_safeInteger? hxn hym
    · rw [hxjson, hyjson] at h
      cases h
  · obtain ⟨m, -, hyjson⟩ | ⟨-, hyjson⟩ := ofDouble_of_finite hy
    · rw [hxjson, hyjson] at h
      cases h
    · rw [hxjson, hyjson] at h
      cases h
      rfl

end Json

/-! ### Values -/

/-- The keys that mark an object as something that is not a document. -/
def wrapperKeys : List String := ["$regex", "$date", "$oid"]

namespace Json

/-- The keys of an object. -/
def keys : Json → List String
  | object members => members.map (·.1)
  | _ => []

/-- The kind of the value that has been written as JSON, which the keys of a wrapper tell. -/
def wrappedKind (j : Json) : Kind :=
  if "$regex" ∈ j.keys then .regex
  else if "$date" ∈ j.keys then .date
  else if "$oid" ∈ j.keys then .objectId
  else kindOf j

end Json

namespace Value

/-- The values with finite numbers in which no key of a document is that of a wrapper. -/
inductive Unwrapped : Value → Prop where
  | boolean {b : Bool} : Unwrapped (.boolean b)
  | number {x : Double} : x.isFinite = true → Unwrapped (.double x)
  | string {s : String} : Unwrapped (.string s)
  | regex {p : Pattern} : Unwrapped (.regex p)
  | date {t : Instant} : Unwrapped (.date t)
  | objectId {id : ObjectId} : Unwrapped (.objectId id)
  | array {items : List Value} : (∀ v ∈ items, Unwrapped v) → Unwrapped (.array items)
  | document {entries : List (String × Value)} :
      (∀ e ∈ entries, e.1 ∉ wrapperKeys) → (∀ e ∈ entries, Unwrapped e.2) →
      Unwrapped (.document entries)

lemma itemsToJson_eq (items : List Value) : itemsToJson items = items.map toJson := by
  induction items with
  | nil => rfl
  | cons v rest ih => rw [itemsToJson, ih, List.map_cons]

lemma entriesToJson_eq (entries : List (String × Value)) :
    entriesToJson entries = entries.map fun e => (e.1, e.2.toJson) := by
  induction entries with
  | nil => rfl
  | cons e rest ih => rw [entriesToJson, ih, List.map_cons]

/-- What JSON keeps of a value. -/
abbrev keptByJson : Value → Value :=
  mapLeaves Double.unsignedZero Instant.toMillis

/-- Wrappers and documents can be told apart, so JSON says of which kind a value is. -/
lemma kindOf_toJson {v : Value} (h : Unwrapped v) : Json.wrappedKind v.toJson = v.kind := by
  cases h with
  | number hx =>
    obtain ⟨n, -, hn⟩ | ⟨-, hnumber⟩ := Json.ofDouble_of_finite hx
    · rw [toJson, hn]
      rfl
    · rw [toJson, hnumber]
      rfl
  | @document entries hentries _ =>
    have hkeys : ∀ key ∈ wrapperKeys, key ∉ (Value.document entries).toJson.keys := by
      intro key hkey hmem
      simp only [toJson, Json.keys, entriesToJson_eq, List.map_map, List.mem_map] at hmem
      obtain ⟨e, he, rfl⟩ := hmem
      exact hentries e he hkey
    rw [Json.wrappedKind, if_neg (hkeys _ (by decide)), if_neg (hkeys _ (by decide)),
      if_neg (hkeys _ (by decide))]
    rfl
  | _ => rfl

lemma eq_of_options {p q : Pattern} (hsource : p.source = q.source)
    (hoptions : p.options = q.options) : p = q := by
  have hnil : ([] : List Char).head? ≠ some 'i' := fun hhead => nomatch hhead
  have htext : p.options.toList ++ [] = q.options.toList ++ [] := by rw [hoptions]
  exact Pattern.eq_of_source hsource (Pattern.options_append_inj hnil hnil htext).1

/-- What is determined element by element is determined for whole lists. -/
lemma map_eq_of_map_eq {α β γ : Type} {f : α → β} {g : α → γ} {xs ys : List α}
    (h : ∀ x ∈ xs, ∀ y ∈ ys, f x = f y → g x = g y) (heq : xs.map f = ys.map f) :
    xs.map g = ys.map g := by
  induction xs generalizing ys with
  | nil =>
    cases ys with
    | nil => rfl
    | cons y ys => cases heq
  | cons x xs ih =>
    cases ys with
    | nil => cases heq
    | cons y ys =>
      obtain ⟨hhead, htail⟩ := List.cons.inj heq
      have hfirst := h x List.mem_cons_self y List.mem_cons_self hhead
      have hinner : ∀ a ∈ xs, ∀ b ∈ ys, f a = f b → g a = g b :=
        fun a ha b hb => h a (List.mem_cons_of_mem x ha) b (List.mem_cons_of_mem y hb)
      exact congrArg₂ List.cons hfirst (ih hinner htail)

lemma kind_eq_of_toJson {v w : Value} (hv : Unwrapped v) (hw : Unwrapped w)
    (h : v.toJson = w.toJson) : v.kind = w.kind := by
  rw [← kindOf_toJson hv, h, kindOf_toJson hw]

/-- By induction on the value, its JSON says what it is. -/
theorem keptByJson_eq_of_toJson {v w : Value} (hv : Unwrapped v) (hw : Unwrapped w)
    (h : v.toJson = w.toJson) : keptByJson v = keptByJson w := by
  induction hv generalizing w with
  | boolean =>
    have hkind := kind_eq_of_toJson .boolean hw h
    cases w with
    | boolean => cases h; rfl
    | _ => cases hkind
  | number hx =>
    have hkind := kind_eq_of_toJson (.number hx) hw h
    cases hw with
    | number hy => exact congrArg Value.double (Json.unsignedZero_eq_of_ofDouble hx hy h)
    | _ => cases hkind
  | string =>
    have hkind := kind_eq_of_toJson .string hw h
    cases w with
    | string => cases h; rfl
    | _ => cases hkind
  | regex =>
    have hkind := kind_eq_of_toJson .regex hw h
    cases w with
    | regex =>
      simp only [toJson, Json.object.injEq, List.cons.injEq, Prod.mk.injEq, Json.string.injEq,
        true_and, and_true] at h
      rw [eq_of_options h.1 h.2]
    | _ => cases hkind
  | date =>
    have hkind := kind_eq_of_toJson .date hw h
    cases w with
    | date =>
      simp only [toJson, Json.object.injEq, List.cons.injEq, Prod.mk.injEq, Json.string.injEq,
        String.ofList_inj, true_and, and_true] at h
      exact congrArg Value.date (Instant.toMillis_eq_of_text h)
    | _ => cases hkind
  | objectId =>
    have hkind := kind_eq_of_toJson .objectId hw h
    cases w with
    | objectId =>
      simp only [toJson, Json.object.injEq, List.cons.injEq, Prod.mk.injEq, Json.string.injEq,
        ObjectId.toHex, String.ofList_inj, true_and, and_true] at h
      rw [ObjectId.hexChars_injective h]
    | _ => cases hkind
  | @array items hitems ih =>
    have hkind := kind_eq_of_toJson (.array hitems) hw h
    cases hw with
    | @array items' hitems' =>
      simp only [toJson, itemsToJson_eq, Json.array.injEq] at h
      simp only [keptByJson, mapLeaves, mapItems_eq]
      exact congrArg Value.array (map_eq_of_map_eq (fun v hv w hw => ih v hv (hitems' w hw)) h)
    | _ => cases hkind
  | @document entries hkeys hentries ih =>
    have hkind := kind_eq_of_toJson (.document hkeys hentries) hw h
    cases hw with
    | @document entries' hkeys' hentries' =>
      simp only [toJson, entriesToJson_eq, Json.object.injEq] at h
      have hentry : ∀ e ∈ entries, ∀ f ∈ entries', (e.1, e.2.toJson) = (f.1, f.2.toJson) →
          (e.1, keptByJson e.2) = (f.1, keptByJson f.2) := by
        intro e he f hf heq
        obtain ⟨hkey, hvalue⟩ := Prod.mk.inj heq
        rw [hkey, ih e he (hentries' f hf) hvalue]
      simp only [keptByJson, mapLeaves, mapEntries_eq]
      exact congrArg Value.document (map_eq_of_map_eq hentry h)
    | _ => cases hkind

end Value

/-! ### Documents of queries -/

lemma Scalar.unwrapped {v : Value} (h : Scalar v) : v.Unwrapped := by
  cases h with
  | boolean => exact .boolean
  | number hx => exact .number hx
  | string => exact .string
  | date => exact .date
  | objectId => exact .objectId
  | regex => exact .regex

lemma Value.unwrapped_pair {v w : Value} (hv : v.Unwrapped) (hw : w.Unwrapped) :
    (Value.array [v, w]).Unwrapped := by
  apply Value.Unwrapped.array
  intro u hu
  obtain rfl | rfl := List.mem_pair.mp hu
  · exact hv
  · exact hw

lemma Document.unwrapped_single {key : String} {v : Value} (hkey : key ∉ wrapperKeys)
    (hv : v.Unwrapped) : (Document.single key v).toValue.Unwrapped := by
  apply Value.Unwrapped.document
  · exact fun e he => List.mem_singleton.mp he ▸ hkey
  · exact fun e he => List.mem_singleton.mp he ▸ hv

/-- The keys of wrappers are no names of fields, as these have no dollar sign. -/
lemma FieldName.not_mem_wrapperKeys {name : String} (h : FieldName name) : name ∉ wrapperKeys := by
  have hdollar : ∀ key ∈ wrapperKeys, key.toList.head? = some '$' := by decide
  exact fun hmem => h.head_ne (hdollar name hmem)

/-- By induction on the shape, no key of a document is that of a wrapper. -/
lemma Shaped.unwrapped {d : Document} (h : Shaped d) : d.toValue.Unwrapped := by
  have hconnective : ∀ key ∈ connectiveKeys, key ∉ wrapperKeys := by decide
  have hcomparator : ∀ key ∈ comparatorKeys, key ∉ wrapperKeys := by decide
  have haggregate : ∀ key ∈ aggregateKeys, key ∉ wrapperKeys := by decide
  induction h with
  | connective hkey _ _ ihl ihr =>
    exact Document.unwrapped_single (hconnective _ hkey) (Value.unwrapped_pair ihl ihr)
  | equality hname hv => exact Document.unwrapped_single hname.not_mem_wrapperKeys hv.unwrapped
  | comparison hname hkey hv =>
    exact Document.unwrapped_single hname.not_mem_wrapperKeys
      (Document.unwrapped_single (hcomparator _ hkey) hv.unwrapped)
  | aggregate _ hkey hv _ =>
    exact Document.unwrapped_single (haggregate _ hkey) (Value.unwrapped_pair .string hv.unwrapped)
  | @regexMatch name p _ _ =>
    refine Document.unwrapped_single (by decide) (.document ?_ ?_)
    · intro e he
      obtain rfl | rfl := List.mem_pair.mp he
      · exact (by decide : "input" ∉ wrapperKeys)
      · exact (by decide : "regex" ∉ wrapperKeys)
    · intro e he
      obtain rfl | rfl := List.mem_pair.mp he
      · exact .string
      · exact .regex

namespace Document

lemma unwrapped_of_ofText {text : String} {d : Document} (h : ofText text = .ok d) :
    d.toValue.Unwrapped := by
  obtain ⟨q, hq, rfl⟩ := exists_query_of_ofText h
  exact (hq.mono fun _ => Literal.Readable.finite).shaped.unwrapped

/-- If the documents of two accepted queries have the same JSON text, on one line or on many, then
they are equal when the sign of each zero and the part of each date below the millisecond are
dropped. -/
theorem mapLeaves_eq_of_json {p q : String} {d e : Document} (hp : ofText p = .ok d)
    (hq : ofText q = .ok e)
    (h : d.toJson.compact = e.toJson.compact ∨ d.toJson.pretty = e.toJson.pretty) :
    d.mapLeaves Double.unsignedZero Instant.toMillis =
      e.mapLeaves Double.unsignedZero Instant.toMillis := by
  apply mapLeaves_inj
  apply Value.keptByJson_eq_of_toJson (unwrapped_of_ofText hp) (unwrapped_of_ofText hq)
  cases h with
  | inl hcompact => exact Json.compact_injective hcompact
  | inr hpretty => exact Json.pretty_injective hpretty

/-- The two zeros. -/
theorem mapLeaves_eq_of_json_zero :
    ∃ d e, ofText "n: 0" = .ok d ∧ ofText "n: -0" = .ok e ∧ d.toJson.compact = e.toJson.compact ∧
      d.mapLeaves Double.unsignedZero Instant.toMillis =
        e.mapLeaves Double.unsignedZero Instant.toMillis := by
  have hp : Query.parse "n: 0" = .ok (.field "n" (.number ⟨false, 0, by decide⟩) none) := by
    decide +kernel
  have hq : Query.parse "n: -0" = .ok (.field "n" (.number ⟨true, 0, by decide⟩) none) := by
    decide +kernel
  have hd := congrArg (Except.map Query.toDocument) hp
  have he := congrArg (Except.map Query.toDocument) hq
  have htext : (Query.field "n" (.number ⟨false, 0, by decide⟩) none).toDocument.toJson.compact =
      (Query.field "n" (.number ⟨true, 0, by decide⟩) none).toDocument.toJson.compact := by
    decide +kernel
  exact ⟨_, _, hd, he, htext, mapLeaves_eq_of_json hd he (.inl htext)⟩

end Document

end FilterQuery
