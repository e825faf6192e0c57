import FilterQuery.Proofs.Composition

/-!
# The trees of queries

A tree is proper if its names are made of name characters, with dollar signs in front of those of
variables, if no variable is compared with a pattern, and if its literals have a given property. The
tree of every accepted query is proper with literals that stand for texts, which follows from its
derivation, and the numbers among them are finite.
-/

namespace FilterQuery

open Text Token Grammar

/-- A name that a field can have. It has no dollar sign, as this is no name character. -/
def FieldName (name : String) : Prop :=
  name.toList ≠ [] ∧ ∀ c ∈ name.toList, isNameChar c = true

/-- A literal that is no number beyond all others. -/
def Literal.Finite : Literal → Prop
  | number x => x.isFinite = true
  | _ => True

namespace Query

/-- The trees that queries can have, with literals that satisfy `P`. -/
inductive Proper (P : Literal → Prop) : Query → Prop where
  | join {op : Connective} {left right : Query} :
      Proper P left → Proper P right → Proper P (.join op left right)
  | field {name : String} {value : Literal} {comparator : Option Comparator} :
      FieldName name → P value → Proper P (.field name value comparator)
  | variableMatch {name : String} {p : Pattern} :
      FieldName name → P (.regex p) → Proper P (.variableMatch ("$$" ++ name) p)
  | variableCompare {name : String} {value : Literal} {comparator : Option Comparator} :
      FieldName name → P value → (∀ p, value ≠ .regex p) →
      Proper P (.variableCompare ("$$" ++ name) value comparator)

end Query

lemma FieldName.head_ne {name : String} (h : FieldName name) : name.toList.head? ≠ some '$' := by
  intro hhead
  have hname : isNameChar '$' = true := h.2 '$' (List.mem_of_mem_head? hhead)
  exact absurd hname (by decide)

lemma fieldName_of_longestRun {cs after : List Char} (h : LongestRun isNameChar cs after) :
    FieldName (String.ofList cs) := by
  unfold FieldName
  rw [String.toList_ofList]
  exact ⟨h.ne_nil, h.all⟩

lemma ofList_dollars (cs : List Char) :
    String.ofList ('$' :: '$' :: cs) = "$$" ++ String.ofList cs := by
  have hdollars : "$$".toList = ['$', '$'] := rfl
  rw [← String.toList_inj, String.toList_append, hdollars, String.toList_ofList,
    String.toList_ofList]
  rfl

lemma Grammar.Name.fieldName {name after : List Char} (h : Name name after)
    (hhead : name.head? ≠ some '$') : FieldName (String.ofList name) := by
  cases h with
  | plain hrun => exact fieldName_of_longestRun hrun
  | dollars hrun => exact absurd rfl hhead

lemma Grammar.Name.fieldName_of_dollars {name after : List Char}
    (h : Name ('$' :: '$' :: name) after) : FieldName (String.ofList name) := by
  cases h with
  | plain hrun =>
    have hdollar : isNameChar '$' = true := hrun.all '$' List.mem_cons_self
    exact absurd hdollar (by decide)
  | dollars hrun => exact fieldName_of_longestRun hrun

lemma Literal.finite_of_readNumber? {cs : List Char} {x : Double}
    (h : Literal.readNumber? cs = some x) : x.isFinite = true := by
  unfold Literal.readNumber? at h
  split at h
  · simp only [Option.ite_none_right_eq_some] at h
    obtain ⟨hfinite, hx⟩ := h
    rwa [Option.some.inj hx] at hfinite
  · cases h

lemma Literal.finite_of_ofSource {cs : List Char} {ignoreCase : Bool} {value : Literal}
    (h : Literal.ofSource cs ignoreCase = .ok value) : value.Finite := by
  unfold Literal.ofSource at h
  dsimp only at h
  split at h
  · cases h
    trivial
  · cases h

/-- A text that is no numeral does not become a number. -/
lemma Literal.finite_of_ofText {ignoreCase : Bool} {cs : List Char} {value : Literal}
    (h : Literal.ofText ignoreCase cs = .ok value) : value.Finite := by
  have hbare : ∀ ds : List Char, Literal.ofBare ds = .ok value → value.Finite := by
    intro ds hds
    unfold Literal.ofBare at hds
    split_ifs at hds
    · cases hds
      trivial
    · cases hds
      trivial
    · exact finite_of_ofSource hds
    · cases hds
      trivial
  unfold Literal.ofText at h
  split at h
  · exact hbare [] h
  · split_ifs at h
    · exact finite_of_ofSource h
    · cases h
      unfold Literal.ofQuoted
      split <;> trivial
    · exact hbare _ h

lemma Token.Value.finite_of_literal {v : Token.Value} {value : Literal}
    (h : v.literal = .ok value) : value.Finite := by
  have htext : ∀ (ignoreCase : Bool) (cs : List Char),
      (Literal.ofText ignoreCase cs).mapError (ParseError.invalidPattern · ignoreCase) = .ok value →
        value.Finite :=
    fun _ _ hcs => Literal.finite_of_ofText (Query.ok_of_mapError hcs)
  cases v with
  | objectId l =>
    simp only [Token.Value.literal] at h
    cases hl : l.decode with
    | error e =>
      rw [hl] at h
      cases h
    | ok id =>
      rw [hl] at h
      cases h
      trivial
  | bare cs =>
    simp only [Token.Value.literal] at h
    split at h
    · rename_i x hx
      cases h
      exact Literal.finite_of_readNumber? hx
    · exact htext _ _ h
  | quoted quote cs => exact htext _ _ h
  | regex cs ignoreCase => exact htext _ _ h

/-- The literals that stand for the text of a value, and the one that a name alone is compared
with. -/
inductive Literal.Readable : Literal → Prop where
  | implied : Readable (.boolean true)
  | value {v : Token.Value} {text after : List Char} {value : Literal} :
      ValueText v text after → v.literal = .ok value → Readable value

lemma Literal.Readable.finite {value : Literal} (h : value.Readable) : value.Finite := by
  cases h with
  | implied => trivial
  | value _ hvalue => exact Token.Value.finite_of_literal hvalue

lemma Grammar.Comparand.readable {cs after : List Char} {value : Literal} {cmp : Option Comparator}
    (h : Comparand cs value cmp after) : value.Readable := by
  cases h with
  | absent => exact .implied
  | present _ htext hvalue _ => exact .value htext hvalue

lemma Grammar.Leaf.proper {P : Literal → Prop} {name after : List Char} {value : Literal}
    {cmp : Option Comparator} {q : Query} (h : Leaf name value cmp q) (hname : Name name after)
    (hvalue : P value) : q.Proper P := by
  cases h with
  | field hhead => exact .field (hname.fieldName hhead) hvalue
  | variableMatch =>
    rw [ofList_dollars]
    exact .variableMatch hname.fieldName_of_dollars hvalue
  | variableCompare hregex =>
    rw [ofList_dollars]
    exact .variableCompare hname.fieldName_of_dollars hvalue hregex

/-- By induction on the derivation of a query, its tree is proper. -/
lemma Grammar.Derives.proper {s : Symbol} {cs after : List Char} {q : Query}
    (h : Derives s cs q after) : q.Proper Literal.Readable := by
  induction h with
  | group _ _ _ ih => exact ih
  | comparison hname hcomparand hleaf => exact hleaf.proper hname hcomparand.readable
  | nested _ ih => exact ih
  | single _ ih => exact ih
  | join _ _ _ _ _ _ ihl ihr => exact .join ihl ihr

namespace Query

lemma Proper.mono {P R : Literal → Prop} {q : Query} (h : q.Proper P) (hPR : ∀ l, P l → R l) :
    q.Proper R := by
  induction h with
  | join _ _ ihl ihr => exact .join ihl ihr
  | field hname hvalue => exact .field hname (hPR _ hvalue)
  | variableMatch hname hvalue => exact .variableMatch hname (hPR _ hvalue)
  | variableCompare hname hvalue hregex => exact .variableCompare hname (hPR _ hvalue) hregex

/-- Every query that is accepted has a proper tree. -/
theorem readable_of_parse {text : String} {q : Query} (h : Query.parse text = .ok q) :
    q.Proper Literal.Readable := by
  obtain ⟨_, _, _, _, _, _, hchain⟩ := Query.exists_chain_of_parse h
  exact (hchain [] [] blank_nil).proper

lemma proper_of_parse {text : String} {q : Query} (h : Query.parse text = .ok q) :
    q.Proper Literal.Finite :=
  (readable_of_parse h).mono fun _ => Literal.Readable.finite

end Query

lemma Document.exists_query_of_ofText {text : String} {d : Document}
    (h : Document.ofText text = .ok d) :
    ∃ q : Query, q.Proper Literal.Readable ∧ d = q.toDocument := by
  unfold Document.ofText at h
  cases hparse : Query.parse text with
  | error e =>
    rw [hparse] at h
    cases h
  | ok q =>
    rw [hparse] at h
    cases h
    exact ⟨q, Query.readable_of_parse hparse, rfl⟩

end FilterQuery
