import FilterQuery.Proofs.Tokens
import FilterQuery.Query.Parser

/-!
# Recognition

The parser accepts exactly the texts that the grammar derives, with the trees that it derives. In
one direction a derivation is followed from the inside out. A value may have taken white space that
the grammar gives to what comes after it, so the readers are compared up to leading white space. In
the other direction the readers are followed through the text, which gets shorter at each
parenthesis and each connective.
-/

namespace FilterQuery

open Text Token Grammar

namespace Query

section Leaves

variable {name after : List Char} {value : Literal} {cmp : Option Comparator} {q : Query}

lemma ofComparison_of_leaf (h : Leaf name value cmp q) : ofComparison name value cmp = .ok q := by
  cases h with
  | field hd =>
    have hv : isVariable name = false := by
      cases name with
      | nil => rfl
      | cons c tail =>
        have hc : c ≠ '$' := fun he => hd (he ▸ rfl)
        simp [isVariable, List.isPrefixOf, hc.symm]
    simp [ofComparison, hv]
  | variableMatch => rfl
  | variableCompare hp =>
    cases value with
    | regex p => exact absurd rfl (hp p)
    | _ => rfl

lemma leaf_of_ofComparison (hn : Name name after) (h : ofComparison name value cmp = .ok q) :
    Leaf name value cmp q := by
  cases hn with
  | plain hrun =>
    obtain ⟨c, tail, rfl, hc⟩ := head_of_longestRun hrun
    have hd : c ≠ '$' := by
      rintro rfl
      exact absurd hc (by decide)
    have hv : isVariable (c :: tail) = false := by
      simp [isVariable, List.isPrefixOf, hd.symm]
    simp only [ofComparison, hv, Bool.false_eq_true, if_false, Except.ok.injEq] at h
    subst h
    exact .field (by simpa using hd)
  | dollars hrun =>
    rename_i core
    have hv : isVariable ('$' :: '$' :: core) = true := rfl
    simp only [ofComparison, hv, if_true] at h
    split at h
    · cases h
      exact .variableMatch
    · cases h
    · rename_i hno₁ hno₂
      cases h
      refine .variableCompare fun p hp => ?_
      cases cmp with
      | none => exact hno₁ p hp rfl
      | some c => exact hno₂ p c hp rfl

end Leaves

/-- The reader of each symbol of the grammar. -/
def read : Symbol → (cs : List Char) → Outcome cs
  | .group => readGroup
  | .part => readPart
  | .chain => readChain

/-- The readers call each other on the same text in the order of the symbols, and start again with
a chain on a shorter text. -/
theorem read_induction {P : Symbol → List Char → Prop}
    (group : ∀ cs, (∀ ds, ds.length < cs.length → P .chain ds) → P .group cs)
    (part : ∀ cs, P .group cs → P .part cs)
    (chain : ∀ cs, P .part cs → (∀ ds, ds.length < cs.length → P .chain ds) → P .chain cs)
    (s : Symbol) (cs : List Char) : P s cs := by
  have hchain : ∀ n, ∀ ds : List Char, ds.length < n → P .chain ds := by
    intro n
    induction n with
    | zero => exact fun ds h => absurd h (Nat.not_lt_zero _)
    | succ n ih =>
      intro ds hds
      have hshorter : ∀ es : List Char, es.length < ds.length → P .chain es :=
        fun es hes => ih es (by omega)
      exact chain ds (part ds (group ds hshorter)) hshorter
  have hgroup : P .group cs := group cs (hchain cs.length)
  cases s with
  | group => exact hgroup
  | part => exact part cs hgroup
  | chain => exact hchain (cs.length + 1) cs (Nat.lt_succ_self _)

lemma toPair_readPart_of_name {cs name rest : List Char} (h : name? cs = some (name, rest)) :
    (readPart cs).toPair = (readComparison name rest).toPair := by
  have hf := map_toPair_readField? cs
  rw [h, Option.map_some, Option.map_eq_some_iff] at hf
  obtain ⟨o, ho, hpair⟩ := hf
  rw [toPair_readPart, ho]
  exact hpair

lemma toPair_readPart_of_none {cs : List Char} (h : name? cs = none) :
    (readPart cs).toPair = (readGroup cs).toPair := by
  have hf := map_toPair_readField? cs
  rw [h, Option.map_none, Option.map_eq_none_iff] at hf
  rw [toPair_readPart, hf]

/-! ### What the grammar derives is read -/

/-- A closing parenthesis comes next. -/
def Closing (after : List Char) : Prop :=
  (trimStart after).head? = some ')'

/-- The end of a part: a closing parenthesis or a keyword comes next. -/
def PartEnd (after : List Char) : Prop :=
  Closing after ∨ (keyword? after).isSome

/-- The two texts differ in leading white space only. -/
def SameStart (cs ds : List Char) : Prop :=
  trimStart cs = trimStart ds

section Ends

variable {cs after rest : List Char}

lemma keyword?_congr (h : SameStart cs rest) : keyword? cs = keyword? rest := by
  unfold SameStart at h
  simp only [keyword?, h]

lemma Closing.congr (h : SameStart cs rest) (hc : Closing rest) : Closing cs := by
  unfold Closing
  rw [h]
  exact hc

lemma Closing.trimStart_eq (h : Closing after) : ∃ tail, trimStart after = ')' :: tail := by
  unfold Closing at h
  obtain ⟨tail, ht⟩ := List.head?_eq_some_iff.mp h
  exact ⟨tail, ht⟩

lemma Closing.keyword?_eq_none (h : Closing after) : keyword? after = none := by
  obtain ⟨tail, ht⟩ := h.trimStart_eq
  have hword : Unicode.isWord ')' = false := by decide
  simp [keyword?, ht, hword, Connective.ofKeyword?]

lemma keyword?_isSome_of_trimStart (h : (keyword? after).isSome) :
    ∃ c tail, trimStart after = c :: tail ∧ Unicode.isWord c = true ∧ c ≠ 'i' := by
  obtain ⟨⟨op, rest⟩, hk⟩ := Option.isSome_iff_exists.mp h
  obtain ⟨v, word, w, rfl, hv, hword, hw, -⟩ := keyword_of_keyword? hk
  obtain ⟨c, tail, rfl⟩ := List.exists_cons_of_ne_nil (keyword_ne_nil hword)
  have hc := isWord_of_keyword hword c List.mem_cons_self
  refine ⟨c, tail ++ w ++ rest, ?_, hc, ?_⟩
  · rw [List.append_assoc, List.append_assoc, trimStart_append hv, List.append_assoc]
    apply trimStart_of_head
    rintro d ⟨⟩
    exact not_isSpace_of_isNameChar (isNameChar_of_isWord hc)
  · rintro rfl
    cases op <;> simp [Keyword, Connective.name] at hword

lemma PartEnd.head_ne (h : PartEnd after) (hw : Blank cs) : (cs ++ after).head? ≠ some 'i' := by
  intro hi
  have hstart : trimStart (cs ++ after) = cs ++ after := by
    apply trimStart_of_head
    rw [hi]
    rintro c ⟨⟩
    decide
  rw [trimStart_append hw] at hstart
  rw [← hstart] at hi
  rcases h with h | h
  · rw [h] at hi
    cases hi
  · obtain ⟨c, tail, he, -, hc⟩ := keyword?_isSome_of_trimStart h
    rw [he] at hi
    exact hc (Option.some.inj hi)

/-- At the end of a part there is nothing that its name could be compared with. -/
lemma PartEnd.comparison?_eq_none (h : PartEnd after)
    (hn : ∀ c ∈ after.head?, isNameChar c = false) : comparison? after = none := by
  rcases h with h | h
  · obtain ⟨tail, ht⟩ := h.trimStart_eq
    have hrun : run isComparatorChar (')' :: tail) = ([], ')' :: tail) :=
      run_of_head (by rintro c ⟨⟩; decide)
    have hstart : trimStart (')' :: tail) = ')' :: tail :=
      trimStart_of_head (by rintro c ⟨⟩; decide)
    have hvalue : valueText? (')' :: tail) = none := by
      simp [valueText?, isBareChar, isNameChar, Unicode.isWord, Literal.isQuote]
    simp only [comparison?, ht, hrun, hstart, hvalue]
  · obtain ⟨c, tail, he, hc, -⟩ := keyword?_isSome_of_trimStart h
    have hname := isNameChar_of_isWord hc
    have hspace := not_isSpace_of_isNameChar hname
    have hrun : run isComparatorChar (c :: tail) = ([], c :: tail) := by
      apply run_of_head
      rintro d ⟨⟩
      by_contra hd
      rw [Bool.not_eq_false] at hd
      have := not_isBareChar_of_isComparatorChar hd
      rw [isBareChar_of_isNameChar hname] at this
      cases this
    have hhead : after.head?.any Unicode.isSpace = true := by
      by_contra hno
      have hstart : trimStart after = after := by
        apply trimStart_of_head
        intro d hd
        rw [Option.mem_def.mp hd] at hno
        simpa using hno
      rw [hstart] at he
      subst he
      rw [hn c rfl] at hname
      cases hname
    simp only [comparison?, he, hrun]
    split
    · rfl
    · simp [hhead]

end Ends

lemma toPair_readComparison_of_comparand {name cs after : List Char} {value : Literal}
    {cmp : Option Comparator} {q : Query} (hn : Name name (cs ++ after))
    (hc : Comparand cs value cmp after) (hl : Leaf name value cmp q) (he : PartEnd after) :
    ∃ rest, (readComparison name (cs ++ after)).toPair = (.ok q, rest) ∧ SameStart rest after := by
  have hq := ofComparison_of_leaf hl
  cases hc with
  | absent =>
    have hname : ∀ c ∈ after.head?, isNameChar c = false := by
      cases hn with
      | plain h => exact h.ends
      | dollars h => exact h.ends
    refine ⟨after, ?_, rfl⟩
    rw [List.nil_append, toPair_readComparison, he.comparison?_eq_none hname]
    simp only [hq, Except.mapError]
  | @present link text w _ _ v _ hlink htext hv hw =>
    obtain ⟨token, hread, htoken⟩ :=
      comparison?_append (by simpa only [List.append_assoc] using hlink) htext hw (he.head_ne hw)
    refine ⟨trimStart after, ?_, trimStart_trimStart after⟩
    rw [List.append_assoc, toPair_readComparison, hread]
    simp only [htoken, hv, hq, Except.mapError]

/-- What reading makes of a text that the grammar derives. -/
def Recognized : Symbol → List Char → Query → List Char → Prop
  | .group, cs, q, after => (readGroup (cs ++ after)).toPair = (.ok q, after)
  | .part, cs, q, after =>
    PartEnd after → ∃ rest, (readPart (cs ++ after)).toPair = (.ok q, rest) ∧ SameStart rest after
  | .chain, cs, q, after =>
    Closing after → ∃ rest, (readChain (cs ++ after)).toPair = (.ok q, rest) ∧ SameStart rest after

lemma head_of_derives {s : Symbol} {cs after : List Char} {q : Query} (h : Derives s cs q after) :
    ∃ c tail, cs = c :: tail ∧ Unicode.isSpace c = false := by
  induction h with
  | group => exact ⟨_, _, rfl, by decide⟩
  | @comparison name cs _ _ _ _ hn =>
    cases hn with
    | plain h =>
      obtain ⟨c, tail, rfl, hc⟩ := head_of_longestRun h
      exact ⟨c, tail ++ cs, rfl, not_isSpace_of_isNameChar hc⟩
    | dollars h => exact ⟨_, _, rfl, by decide⟩
  | nested _ ih => exact ih
  | single _ ih => exact ih
  | join _ _ _ _ _ _ ih =>
    obtain ⟨c, tail, rfl, hc⟩ := ih
    exact ⟨c, _, rfl, hc⟩

lemma name?_group (cs : List Char) : name? ('(' :: cs) = none := by
  simp [name?, plainName?, run, isNameChar, Unicode.isWord]

/-- The readers find what the grammar derives. -/
theorem recognized_of_derives {s : Symbol} {cs after : List Char} {q : Query}
    (h : Derives s cs q after) : Recognized s cs q after := by
  induction h with
  | @group v cs w after q hv hd hw ih =>
    have hclosing : trimStart (w ++ ')' :: after) = ')' :: after := by
      rw [trimStart_append hw]
      exact trimStart_of_head (by rintro c ⟨⟩; decide)
    obtain ⟨rest, hread, hrest⟩ := ih (by rw [Closing, hclosing]; rfl)
    have hstart : trimStart (v ++ (cs ++ (w ++ ')' :: after))) = cs ++ (w ++ ')' :: after) := by
      obtain ⟨c, tail, rfl, hc⟩ := head_of_derives hd
      rw [trimStart_append hv]
      exact trimStart_of_head (by rintro d ⟨⟩; exact hc)
    have htext : '(' :: v ++ cs ++ w ++ [')'] ++ after =
        '(' :: (v ++ (cs ++ (w ++ ')' :: after))) := by simp
    rw [SameStart, hclosing] at hrest
    change (readGroup ('(' :: v ++ cs ++ w ++ [')'] ++ after)).toPair = (.ok q, after)
    rw [htext, toPair_readGroup_cons, hstart, hread]
    simp only [hrest]
  | @comparison name cs after value cmp q hn hc hl =>
    intro he
    rw [List.append_assoc, toPair_readPart_of_name (name?_append hn)]
    exact toPair_readComparison_of_comparand hn hc hl he
  | @nested cs after q hd ih =>
    intro _
    refine ⟨after, ?_, rfl⟩
    have hname : name? (cs ++ after) = none := by
      cases hd
      exact name?_group _
    rw [toPair_readPart_of_none hname]
    exact ih
  | @single cs after q _ ih =>
    -- A keyword here would make this a join: that is why the chain has to be closed.
    intro hc
    obtain ⟨rest, hread, hrest⟩ := ih (.inl hc)
    refine ⟨rest, ?_, hrest⟩
    rw [toPair_readChain, hread]
    simp only [(hc.congr hrest).keyword?_eq_none]
  | @join cs v word w ds after op left right _ hv hk hword hw hd ihl ihr =>
    intro hc
    -- Reading the left part may have consumed `v` already, so the keyword is found up to `SameStart`.
    have hkey : keyword? (v ++ word ++ w ++ ds ++ after) = some (op, ds ++ after) := by
      have hstart : trimStart (w ++ ds ++ after) = ds ++ after := by
        obtain ⟨c, tail, rfl, hc⟩ := head_of_derives hd
        rw [List.append_assoc, trimStart_append hw]
        exact trimStart_of_head (by rintro d ⟨⟩; exact hc)
      have hkey := keyword?_append hv hk hword
      rw [hstart] at hkey
      simpa only [List.append_assoc] using hkey
    obtain ⟨rest, hleft, hrest⟩ := ihl (.inr (by rw [hkey]; rfl))
    obtain ⟨rest', hright, hrest'⟩ := ihr hc
    refine ⟨rest', ?_, hrest'⟩
    have htext : cs ++ v ++ word ++ w ++ ds ++ after = cs ++ (v ++ word ++ w ++ ds ++ after) := by
      simp only [List.append_assoc]
    rw [htext, toPair_readChain, hleft]
    simp only [keyword?_congr hrest, hkey, hright]
    rfl

/-! ### What is read is derived -/

/-- Reading a query consumes a text that the grammar derives. -/
def Sound (s : Symbol) (cs : List Char) : Prop :=
  ∀ q rest, (read s cs).toPair = (.ok q, rest) → ∃ ds, cs = ds ++ rest ∧ Derives s ds q rest

lemma sound_group {cs : List Char}
    (ih : ∀ ds : List Char, ds.length < cs.length → Sound .chain ds) : Sound .group cs := by
  intro q rest h
  change (readGroup cs).toPair = _ at h
  by_cases hopen : cs.head? = some '('
  · obtain ⟨tail, rfl⟩ := List.head?_eq_some_iff.mp hopen
    rw [toPair_readGroup_cons] at h
    obtain ⟨v, hv, htail⟩ := exists_blank_trimStart tail
    have hlen : (trimStart tail).length < ('(' :: tail).length := by
      have := (trimStart_suffix tail).length_le
      rw [List.length_cons]
      omega
    cases hread : (readChain (trimStart tail)).toPair with
    | mk result left =>
      rw [hread] at h
      cases result with
      | error e => cases h
      | ok q' =>
        simp only at h
        split at h
        · rename_i rest' hclose
          cases h
          obtain ⟨ds, hds, hderives⟩ := ih _ hlen q left hread
          obtain ⟨w, hw, hleft⟩ := exists_blank_trimStart left
          rw [hclose] at hleft
          subst hleft
          refine ⟨'(' :: v ++ ds ++ w ++ [')'], ?_, .group hv hderives hw⟩
          rw [htail, hds]
          simp
        · cases h
  · rw [toPair_readGroup_of_ne hopen] at h
    cases h

lemma ok_of_mapError {ε ε' α : Type} {f : ε → ε'} {x : Except ε α} {a : α}
    (h : x.mapError f = .ok a) : x = .ok a := by
  cases x with
  | error e => cases h
  | ok b => simpa [Except.mapError] using h

lemma comparand_of_readComparison {name cs rest : List Char} {q : Query}
    (h : (readComparison name cs).toPair = (.ok q, rest)) :
    ∃ ds value cmp, cs = ds ++ rest ∧ Comparand ds value cmp rest ∧
      ofComparison name value cmp = .ok q := by
  rw [toPair_readComparison] at h
  cases hc : comparison? cs with
  | none =>
    rw [hc] at h
    simp only [Prod.mk.injEq] at h
    obtain ⟨hq, rfl⟩ := h
    exact ⟨[], _, _, rfl, .absent, ok_of_mapError hq⟩
  | some pair =>
    obtain ⟨c, tail⟩ := pair
    rw [hc] at h
    simp only at h
    split at h
    · cases h
    · cases h
    · cases h
    · rename_i cmp value hcmp hvalue
      simp only [Prod.mk.injEq] at h
      obtain ⟨hq, rfl⟩ := h
      obtain ⟨link, text, w, rfl, hlink, htext, hw⟩ := link_of_comparison? hc hcmp
      refine ⟨link ++ text ++ w, value, cmp, by simp only [List.append_assoc], ?_,
        ok_of_mapError hq⟩
      exact .present (by simpa only [List.append_assoc] using hlink) htext hvalue hw

lemma sound_part {cs : List Char} (ih : Sound .group cs) : Sound .part cs := by
  intro q rest h
  change (readPart cs).toPair = _ at h
  cases hname : name? cs with
  | none =>
    rw [toPair_readPart_of_none hname] at h
    obtain ⟨ds, hds, hd⟩ := ih q rest h
    exact ⟨ds, hds, .nested hd⟩
  | some pair =>
    obtain ⟨name, tail⟩ := pair
    rw [toPair_readPart_of_name hname] at h
    obtain ⟨rfl, hn⟩ := name_of_name? hname
    obtain ⟨ds, value, cmp, rfl, hc, hq⟩ := comparand_of_readComparison h
    refine ⟨name ++ ds, by rw [List.append_assoc], ?_⟩
    exact .comparison hn hc (leaf_of_ofComparison hn hq)

lemma sound_chain {cs : List Char} (ihp : Sound .part cs)
    (ih : ∀ ds : List Char, ds.length < cs.length → Sound .chain ds) : Sound .chain cs := by
  intro q rest h
  change (readChain cs).toPair = _ at h
  rw [toPair_readChain] at h
  cases hpart : (readPart cs).toPair with
  | mk result left =>
    rw [hpart] at h
    cases result with
    | error e => cases h
    | ok l =>
      obtain ⟨ds, hds, hl⟩ := ihp l left hpart
      cases hk : keyword? left with
      | none =>
        simp only [hk, Prod.mk.injEq, Except.ok.injEq] at h
        obtain ⟨rfl, rfl⟩ := h
        exact ⟨ds, hds, .single hl⟩
      | some pair =>
        obtain ⟨op, tail⟩ := pair
        simp only [hk] at h
        have hlen : tail.length < cs.length := by
          have := (suffix_of_keyword? hk).2
          rw [hds, List.length_append]
          omega
        obtain ⟨v, word, w, hleft, hv, hword, hw, hend⟩ := keyword_of_keyword? hk
        cases hchain : (readChain tail).toPair with
        | mk result right =>
          rw [hchain] at h
          cases result with
          | error e => cases h
          | ok r =>
            cases h
            obtain ⟨es, hes, hr⟩ := ih tail hlen r right hchain
            subst hes hleft
            refine ⟨ds ++ v ++ word ++ w ++ es, ?_, .join ?_ hv hword ?_ hw hr⟩
            · rw [hds]
              simp only [List.append_assoc]
            · simpa only [List.append_assoc] using hl
            · simpa only [List.append_assoc] using hend

/-- Every text that is read as a query has a derivation. -/
theorem sound (s : Symbol) (cs : List Char) : Sound s cs :=
  read_induction (fun _ ih => sound_group ih) (fun _ ih => sound_part ih)
    (fun _ ihp ih => sound_chain ihp ih) s cs

/-- A text is read as a group, up to its end, exactly if it is derived. -/
theorem readGroup_eq_ok_iff {cs rest : List Char} {q : Query} :
    (readGroup cs).toPair = (.ok q, rest) ↔ ∃ ds, cs = ds ++ rest ∧ Derives .group ds q rest := by
  constructor
  · exact sound .group cs q rest
  · rintro ⟨ds, rfl, h⟩
    exact recognized_of_derives h

/-- The grammar is unambiguous: a text has at most one tree. -/
theorem isGroup_unique {cs : List Char} {q q' : Query} (h : IsGroup cs q) (h' : IsGroup cs q') :
    q = q' := by
  have hread := readGroup_eq_ok_iff.mpr ⟨cs, (List.append_nil cs).symm, h⟩
  have hread' := readGroup_eq_ok_iff.mpr ⟨cs, (List.append_nil cs).symm, h'⟩
  rw [hread] at hread'
  cases hread'
  rfl

end Query

namespace Parser

/-- A call answers with what its group is read as, unless something is left after the group. -/
lemma parse_fst (p : Parser) :
    p.parse.1 =
      match (Query.readGroup p.rest).toPair with
      | (.ok _, c :: cs) => .error (.ofFault (c :: cs) .unexpectedInput)
      | (result, _) => result := by
  cases hresult : (Query.readGroup p.rest).result with
  | error e => simp [parse, Outcome.toPair, Outcome.extend, hresult]
  | ok q =>
    cases hrest : (Query.readGroup p.rest).rest with
    | nil => simp [parse, Outcome.toPair, Outcome.extend, hresult, hrest]
    | cons c cs => simp [parse, Outcome.toPair, Outcome.extend, hresult, hrest]

lemma parse_rest (p : Parser) : p.parse.2.rest = (Query.readGroup p.rest).toPair.2 := by
  unfold parse
  dsimp only
  split <;> rfl

lemma parse_source (p : Parser) : p.parse.2.source = p.source := by
  unfold parse
  dsimp only
  split <;> rfl

lemma parse_eq_ok_iff_readGroup {cs : List Char} {q : Query} :
    (ofSource cs).parse.1 = .ok q ↔ (Query.readGroup cs).toPair = (.ok q, []) := by
  rw [parse_fst, show (ofSource cs).rest = cs from rfl]
  obtain ⟨result, rest⟩ := (Query.readGroup cs).toPair
  cases result with
  | error e => simp
  | ok q' => cases rest <;> simp

/-- The parser accepts exactly the texts that are queries in parentheses, and finds the tree that
the grammar gives them. -/
theorem parse_eq_ok_iff_isGroup (cs : List Char) (q : Query) :
    (ofSource cs).parse.1 = .ok q ↔ IsGroup cs q := by
  rw [parse_eq_ok_iff_readGroup, Query.readGroup_eq_ok_iff]
  constructor
  · rintro ⟨ds, rfl, h⟩
    rwa [List.append_nil]
  · intro h
    exact ⟨cs, (List.append_nil cs).symm, h⟩

end Parser

end FilterQuery
