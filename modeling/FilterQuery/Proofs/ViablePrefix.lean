import FilterQuery.Proofs.Composition

/-!
# Viable prefixes

A parser that notices a fault has consumed a text that is the beginning of some query. What is
missing can be supplied: the closing parentheses, and a name where a query was expected. The
continuation is followed from the fault outwards through the groups and chains that are still open.
Tokens that were read before the fault are read again, as they are cut off in the same place.
-/

namespace FilterQuery

open Text Token Grammar

namespace Query

section Faults

variable {name cs rest : List Char} {fault : Fault} {near : String}

lemma eq_of_mapError_ofFault {x : Except Fault Query}
    (h : x.mapError (ParseError.ofFault rest) = .error (.grammar fault near)) :
    near = ParseError.context rest ∧ x = .error fault := by
  cases x with
  | error f =>
    cases h
    exact ⟨rfl, rfl⟩
  | ok q => cases h

lemma error_of_map {x : Except ParseError Query} {f : Query → Query} {e : ParseError}
    (h : x.map f = .error e) : x = .error e := by
  cases x with
  | error e' => exact h
  | ok q => cases h

lemma exists_ofComparison_true (name : List Char) :
    ∃ q, ofComparison name (.boolean true) none = .ok q := by
  unfold ofComparison
  dsimp only
  split_ifs
  · exact ⟨_, rfl⟩
  · exact ⟨_, rfl⟩

/-- The only comparison that is refused is that of a variable with a pattern. -/
lemma regexComparison_of_ofComparison {value : Literal} {cmp : Option Comparator}
    (h : ofComparison name value cmp = .error fault) :
    ∃ c input, fault = .regexComparison c input := by
  unfold ofComparison at h
  dsimp only at h
  split at h
  · split at h
    · cases h
    · cases h
      exact ⟨_, _, rfl⟩
    · cases h
  · cases h

lemma unknownComparator_of_comparator {token : List Char}
    (h : Token.comparator token = .error fault) : ∃ text, fault = .unknownComparator text := by
  unfold Token.comparator at h
  extract_lets core at h
  split at h
  · cases h
  · split at h
    · cases h
    · cases h
      exact ⟨_, rfl⟩

/-- A value that stands for no literal is an error of its own kind. -/
lemma literal_ne_grammar (v : Token.Value) : v.literal ≠ .error (.grammar fault near) := by
  intro h
  have hpattern : ∀ (ignoreCase : Bool) (x : Except String Literal),
      x.mapError (ParseError.invalidPattern · ignoreCase) ≠ .error (.grammar fault near) := by
    intro ignoreCase x hx
    cases x <;> cases hx
  cases v with
  | objectId l =>
    simp only [Token.Value.literal, ObjectIdLiteral.decode] at h
    split at h <;> cases h
  | bare cs =>
    simp only [Token.Value.literal] at h
    split at h
    · cases h
    · exact hpattern _ _ h
  | quoted quote cs => exact hpattern _ _ h
  | regex cs ignoreCase => exact hpattern _ _ h

/-- After a name there are two faults: a comparator that is unknown, in front of which the reader
stays, and a pattern that a variable is compared with. -/
lemma fault_of_readComparison
    (h : (readComparison name cs).toPair = (.error (.grammar fault near), rest)) :
    near = ParseError.context rest ∧ ((∃ text, fault = .unknownComparator text) ∧ rest = cs ∨
      (∃ c input, fault = .regexComparison c input) ∧ rest <:+ cs) := by
  have hsuffix : rest <:+ cs := by
    rw [← show (readComparison name cs).rest = rest from congrArg Prod.snd h]
    exact (readComparison name cs).rest_suffix
  rw [toPair_readComparison] at h
  cases hc : comparison? cs with
  | none =>
    obtain ⟨q, hq⟩ := exists_ofComparison_true name
    rw [hc, hq] at h
    cases h
  | some pair =>
    obtain ⟨c, tail⟩ := pair
    rw [hc] at h
    dsimp only at h
    split at h
    · rename_i hf
      cases h
      exact ⟨rfl, .inl ⟨unknownComparator_of_comparator hf, rfl⟩⟩
    · cases h
    · rename_i he
      cases h
      exact absurd he (literal_ne_grammar _)
    · obtain ⟨hresult, rfl⟩ := Prod.mk.inj h
      obtain ⟨hnear, hq⟩ := eq_of_mapError_ofFault hresult
      exact ⟨hnear, .inr ⟨regexComparison_of_ofComparison hq, hsuffix⟩⟩

end Faults

end Query

namespace Grammar

/-- The number of closing parentheses without which no `s` can end. -/
def leastClosing : Symbol → Nat
  | .group => 1
  | _ => 0

/-- `cs` becomes an `s` when `filling` and some closing parentheses come after it. -/
structure Completes (s : Symbol) (cs filling : List Char) : Prop where
  ne_nil : cs ≠ []
  exists_closing : ∃ n q, leastClosing s ≤ n ∧
    ∀ after, Derives s (cs ++ filling ++ List.replicate n ')') q (')' :: after)

/-- What is put where a query is expected: a name, apart from what comes before it. -/
def missingQuery : List Char := [' ', 'a']

section Completes

variable {cs filling v w : List Char}

lemma cuts_of_ne_nil (hne : cs ≠ []) (after after' : List Char) :
    Cuts (cs ++ after) (cs ++ after') := by
  obtain ⟨c, tail, rfl⟩ := List.exists_cons_of_ne_nil hne
  exact fun d hd _ => hd

lemma blank_append_space (hv : Blank v) : Blank (v ++ [' ']) := by
  apply hv.append
  intro c hc
  rw [List.mem_singleton.mp hc]
  decide

lemma derives_name (after : List Char) :
    Derives .chain ['a'] (.field "a" (.boolean true) none) (')' :: after) := by
  have hrun : LongestRun isNameChar ['a'] ([] ++ ')' :: after) := by
    refine ⟨List.cons_ne_nil _ _, List.all_eq_true.mp rfl, ?_⟩
    rintro c ⟨⟩
    decide
  exact .single (.comparison (.plain hrun) .absent (.field (by decide)))

lemma Completes.nested (h : Completes .group cs filling) : Completes .part cs filling := by
  obtain ⟨hne, n, q, -, hderives⟩ := h
  exact ⟨hne, n, q, Nat.zero_le n, fun after => .nested (hderives after)⟩

lemma Completes.single (h : Completes .part cs filling) : Completes .chain cs filling := by
  obtain ⟨hne, n, q, hn, hderives⟩ := h
  exact ⟨hne, n, q, hn, fun after => .single (hderives after)⟩

/-- One more parenthesis closes the group that a chain stands in. -/
lemma Completes.group (h : Completes .chain cs filling) (hv : Blank v) :
    Completes .group ('(' :: v ++ cs) filling := by
  obtain ⟨-, n, q, -, hderives⟩ := h
  refine ⟨List.cons_ne_nil _ _, n + 1, q, Nat.le_add_left 1 n, fun after => ?_⟩
  have hgroup := Derives.group hv (w := []) (hderives (')' :: after)) blank_nil
  rw [List.replicate_succ']
  simpa only [List.append_assoc, List.cons_append, List.nil_append, List.append_nil] using hgroup

lemma completes_open (hv : Blank v) : Completes .group ('(' :: v) missingQuery := by
  refine ⟨List.cons_ne_nil _ _, 1, .field "a" (.boolean true) none, Nat.le_refl 1, fun after => ?_⟩
  have hgroup := Derives.group (blank_append_space hv) (w := []) (derives_name (')' :: after))
    blank_nil
  simpa [missingQuery] using hgroup

section Join

variable {ds word rest : List Char} {op : Connective} {left : Query}

/-- A keyword that came after a part can come after it again, with any chain behind it. -/
lemma derives_join {right : Query} {u es after : List Char}
    (hl : Derives .part ds left (v ++ word ++ rest)) (hv : Blank v) (hk : Keyword word op)
    (hu : Blank u) (hend : ∀ c ∈ (u ++ es).head?, Unicode.isWord c = false)
    (hr : Derives .chain es right after) :
    Derives .chain (ds ++ v ++ word ++ u ++ es) (.join op left right) after := by
  have hne : v ++ word ≠ [] := List.append_ne_nil_of_right_ne_nil v (keyword_ne_nil hk)
  have hleft := hl.congr (cuts_of_ne_nil hne rest (u ++ es ++ after))
  refine .join ?_ hv hk ?_ hu hr
  · simpa only [List.append_assoc] using hleft
  · obtain ⟨c, tail, rfl, -⟩ := Query.head_of_derives hr
    cases u with
    | nil => exact hend
    | cons d u => exact hend

lemma Completes.join (hl : Derives .part ds left (v ++ word ++ rest)) (hv : Blank v)
    (hk : Keyword word op) (hw : Blank w)
    (hend : ∀ c ∈ (w ++ cs).head?, Unicode.isWord c = false) (h : Completes .chain cs filling) :
    Completes .chain (ds ++ v ++ word ++ w ++ cs) filling := by
  obtain ⟨hne, n, q, hn, hderives⟩ := h
  refine ⟨by simp [hne], n, .join op left q, hn, fun after => ?_⟩
  have hhead : ∀ c ∈ (w ++ (cs ++ filling ++ List.replicate n ')')).head?,
      Unicode.isWord c = false := by
    obtain ⟨c, tail, rfl⟩ := List.exists_cons_of_ne_nil hne
    cases w with
    | nil => exact hend
    | cons d w => exact hend
  have hjoin := derives_join hl hv hk hw hhead (hderives after)
  simpa only [List.append_assoc] using hjoin

lemma completes_keyword (hl : Derives .part ds left (v ++ word ++ rest)) (hv : Blank v)
    (hk : Keyword word op) (hw : Blank w) :
    Completes .chain (ds ++ v ++ word ++ w) missingQuery := by
  refine ⟨by simp [keyword_ne_nil hk], 0, .join op left (.field "a" (.boolean true) none),
    Nat.le_refl 0, fun after => ?_⟩
  have hhead : ∀ c ∈ (w ++ [' '] ++ ['a']).head?, Unicode.isWord c = false := by
    cases w with
    | nil =>
      rintro c ⟨⟩
      decide
    | cons d w =>
      rintro c ⟨⟩
      exact Unicode.not_isWord_of_isSpace (hw d List.mem_cons_self)
  have hjoin := derives_join hl hv hk (blank_append_space hw) hhead (derives_name after)
  simpa [missingQuery] using hjoin

end Join

/-- A name that nothing is compared with is a part by itself. -/
lemma completes_name {name rest : List Char} (h : Name name rest) : Completes .part name [] := by
  obtain ⟨q, hq⟩ := Query.exists_ofComparison_true name
  have hne : name ≠ [] := by
    cases h with
    | plain hrun => exact hrun.ne_nil
    | dollars => exact List.cons_ne_nil _ _
  refine ⟨hne, 0, q, Nat.le_refl 0, fun after => ?_⟩
  have hname : Name name ([] ++ ')' :: after) := h.congr (cuts_closing blank_nil after)
  have hderives := Derives.comparison hname .absent (Query.leaf_of_ofComparison h hq)
  simpa only [List.replicate_zero, List.append_nil] using hderives

end Completes

end Grammar

namespace Fault

/-- How what was consumed before a fault can be completed to an `s`. -/
def Resumable (s : Symbol) (consumed : List Char) : Fault → Prop
  | missingOpen => consumed = [] ∨ Completes s consumed missingQuery
  | missingClose => Completes s consumed []
  | unknownComparator _ => Completes s consumed []
  | unexpectedInput => False
  | regexComparison _ _ => True

/-- From the symbol in which a fault is noticed to one around it. -/
lemma Resumable.outward {fault : Fault} {s t : Symbol} {cs ds : List Char}
    (h : fault.Resumable s cs) (hnil : cs = [] → ds = [] ∨ Completes t ds missingQuery)
    (hstep : ∀ filling, Completes s cs filling → Completes t ds filling) :
    fault.Resumable t ds := by
  cases fault with
  | missingOpen => exact h.elim hnil fun h => .inr (hstep _ h)
  | missingClose => exact hstep _ h
  | unknownComparator => exact hstep _ h
  | unexpectedInput => exact h
  | regexComparison => trivial

end Fault

namespace Query

/-- What holds where a reader notices a fault: the error shows the text in front of which the reader
stands, and what was consumed can be completed. -/
def Stops (s : Symbol) (cs : List Char) : Prop :=
  ∀ fault near rest, (read s cs).toPair = (.error (.grammar fault near), rest) →
    near = ParseError.context rest ∧ ∃ ds, cs = ds ++ rest ∧ fault.Resumable s ds

lemma stops_part {cs : List Char} (ih : Stops .group cs) : Stops .part cs := by
  intro fault near rest h
  change (readPart cs).toPair = _ at h
  cases hname : name? cs with
  | none =>
    rw [toPair_readPart_of_none hname] at h
    obtain ⟨hnear, ds, hds, hresume⟩ := ih fault near rest h
    exact ⟨hnear, ds, hds, hresume.outward .inl fun _ => Completes.nested⟩
  | some pair =>
    obtain ⟨name, tail⟩ := pair
    rw [toPair_readPart_of_name hname] at h
    obtain ⟨rfl, hn⟩ := name_of_name? hname
    obtain ⟨hnear, ⟨⟨token, rfl⟩, rfl⟩ | ⟨⟨c, input, rfl⟩, es, rfl⟩⟩ := fault_of_readComparison h
    · exact ⟨hnear, name, rfl, completes_name hn⟩
    · exact ⟨hnear, name ++ es, (List.append_assoc _ _ _).symm, trivial⟩

lemma stops_group {cs : List Char}
    (ih : ∀ ds : List Char, ds.length < cs.length → Stops .chain ds) : Stops .group cs := by
  intro fault near rest h
  change (readGroup cs).toPair = _ at h
  by_cases hopen : cs.head? = some '('
  · obtain ⟨tail, rfl⟩ := List.head?_eq_some_iff.mp hopen
    rw [toPair_readGroup_cons] at h
    obtain ⟨v, hv, htail⟩ := exists_blank_trimStart tail
    have hlen : (trimStart tail).length < ('(' :: tail).length :=
      Nat.lt_succ_of_le (trimStart_suffix tail).length_le
    cases hread : (readChain (trimStart tail)).toPair with
    | mk result left =>
      rw [hread] at h
      cases result with
      | error e =>
        cases h
        obtain ⟨hnear, ds, hds, hresume⟩ := ih _ hlen fault near rest hread
        refine ⟨hnear, '(' :: v ++ ds, ?_, hresume.outward ?_ fun _ hc => hc.group hv⟩
        · rw [htail, hds]
          simp only [List.cons_append, List.append_assoc]
        · rintro rfl
          rw [List.append_nil]
          exact .inr (completes_open hv)
      | ok q =>
        -- The chain is complete, so only its parenthesis is missing, after some white space.
        obtain ⟨ds, hds, hderives⟩ := sound .chain _ q left hread
        obtain ⟨w, hw, hleft⟩ := exists_blank_trimStart left
        dsimp only at h
        split at h
        · cases h
        · cases h
          refine ⟨rfl, '(' :: v ++ ds ++ w, ?_, List.cons_ne_nil _ _, 1, q, Nat.le_refl 1,
            fun after => ?_⟩
          · rw [List.append_assoc _ w, ← hleft, List.append_assoc, ← hds, List.cons_append, ← htail]
          · have hgroup := Derives.group hv (hderives.congr (cuts_closing hw (')' :: after))) hw
            simpa only [List.append_nil, List.replicate_one] using hgroup
  · rw [toPair_readGroup_of_ne hopen] at h
    cases h
    exact ⟨rfl, [], rfl, .inl rfl⟩

lemma stops_chain {cs : List Char} (ihp : Stops .part cs)
    (ih : ∀ ds : List Char, ds.length < cs.length → Stops .chain ds) : Stops .chain cs := by
  intro fault near rest h
  change (readChain cs).toPair = _ at h
  rw [toPair_readChain] at h
  cases hpart : (readPart cs).toPair with
  | mk result left =>
    rw [hpart] at h
    cases result with
    | error e =>
      cases h
      obtain ⟨hnear, ds, hds, hresume⟩ := ihp fault near rest hpart
      exact ⟨hnear, ds, hds, hresume.outward .inl fun _ => Completes.single⟩
    | ok l =>
      cases hk : keyword? left with
      | none =>
        simp only [hk] at h
        cases h
      | some pair =>
        obtain ⟨op, tail⟩ := pair
        simp only [hk] at h
        obtain ⟨ds, rfl, hl⟩ := sound .part _ l left hpart
        have hlen : tail.length < (ds ++ left).length := by
          have := (suffix_of_keyword? hk).2
          rw [List.length_append]
          omega
        obtain ⟨v, word, w, rfl, hv, hword, hw, hend⟩ := keyword_of_keyword? hk
        rw [List.append_assoc _ w] at hl
        obtain ⟨hresult, hrest⟩ := Prod.mk.inj h
        have hread : (readChain tail).toPair = (.error (.grammar fault near), rest) :=
          Prod.ext (error_of_map hresult) hrest
        obtain ⟨hnear, es, rfl, hresume⟩ := ih tail hlen fault near rest hread
        refine ⟨hnear, ds ++ v ++ word ++ w ++ es, by simp only [List.append_assoc],
          hresume.outward ?_ fun _ hc => hc.join hl hv hword hw ?_⟩
        · rintro rfl
          rw [List.append_nil]
          exact .inr (completes_keyword hl hv hword hw)
        · obtain ⟨c, es, rfl⟩ := List.exists_cons_of_ne_nil hc.ne_nil
          cases w with
          | nil => exact hend
          | cons d w => exact hend

/-- Wherever a reader notices a fault, what it has consumed can be completed. -/
theorem stops (s : Symbol) (cs : List Char) : Stops s cs :=
  read_induction (fun _ ih => stops_group ih) (fun _ ih => stops_part ih)
    (fun _ ihp ih => stops_chain ihp ih) s cs

end Query

namespace Parser

/-- A source that is a query in parentheses. -/
def Accepts (source : List Char) : Prop :=
  ∃ q, (ofSource source).parse.1 = .ok q

end Parser

/-- How what was consumed before a fault can be completed to a source that is accepted. -/
def Fault.Viable (consumed : List Char) : Fault → Prop
  | unexpectedInput => Parser.Accepts consumed
  | missingClose => ∃ n, Parser.Accepts (consumed ++ List.replicate (n + 1) ')')
  | unknownComparator _ => ∃ n, Parser.Accepts (consumed ++ List.replicate (n + 1) ')')
  | missingOpen =>
    consumed = [] ∨ ∃ n, Parser.Accepts (consumed ++ [' ', 'a'] ++ List.replicate (n + 1) ')')
  | regexComparison _ _ => True

namespace Parser

lemma accepts_of_derives {cs after : List Char} {q : Query} (h : Derives .group cs q after) :
    Accepts cs :=
  ⟨q, (parse_eq_ok_iff_isGroup cs q).mpr (h.congr fun _ hc => nomatch hc)⟩

lemma exists_accepts_of_completes {cs filling : List Char} (h : Completes .group cs filling) :
    ∃ n, Accepts (cs ++ filling ++ List.replicate (n + 1) ')') := by
  obtain ⟨-, n, q, hn, hderives⟩ := h
  obtain ⟨m, rfl⟩ : ∃ m, n = m + 1 := ⟨n - 1, (Nat.sub_add_cancel hn).symm⟩
  exact ⟨m, accepts_of_derives (hderives [])⟩

lemma viable_of_resumable {fault : Fault} {cs : List Char} (h : fault.Resumable .group cs) :
    fault.Viable cs := by
  have hclose (h : Completes .group cs []) : ∃ n, Accepts (cs ++ List.replicate (n + 1) ')') := by
    simpa only [List.append_nil] using exists_accepts_of_completes h
  cases fault with
  | missingOpen => exact h.imp_right exists_accepts_of_completes
  | missingClose => exact hclose h
  | unknownComparator => exact hclose h
  | unexpectedInput => exact h.elim
  | regexComparison => trivial

/-- A fault is noticed after a viable prefix of the source. The error shows the first ten characters
behind this prefix, and the prefix can be completed to a source that is accepted. -/
theorem viable_of_parse_eq_error {source : List Char} {fault : Fault} {near : String}
    (h : (ofSource source).parse.1 = .error (.grammar fault near)) :
    ∃ consumed, source = consumed ++ (ofSource source).parse.2.rest ∧
      (ofSource source).parse.2.position = utf8Size consumed ∧
      near = String.ofList ((ofSource source).parse.2.rest.take 10) ∧
      fault.Viable consumed := by
  have hrest : (ofSource source).parse.2.rest = (Query.readGroup source).toPair.2 := parse_rest _
  have hsource : (ofSource source).parse.2.source = source := parse_source _
  suffices hviable : ∃ consumed, source = consumed ++ (ofSource source).parse.2.rest ∧
      near = ParseError.context (ofSource source).parse.2.rest ∧ fault.Viable consumed by
    obtain ⟨consumed, htext, hnear, hfault⟩ := hviable
    refine ⟨consumed, htext, ?_, hnear, hfault⟩
    have hsize := congrArg utf8Size htext
    rw [utf8Size_append] at hsize
    rw [position, hsource]
    omega
  rw [parse_fst, show (ofSource source).rest = source from rfl] at h
  rw [hrest]
  cases hread : (Query.readGroup source).toPair with
  | mk result rest =>
    rw [hread] at h
    split at h
    · rename_i hpair
      cases hpair
      cases h
      obtain ⟨ds, hds, hderives⟩ := Query.readGroup_eq_ok_iff.mp hread
      exact ⟨ds, hds, rfl, accepts_of_derives hderives⟩
    · rename_i hpair
      cases hpair
      rw [h] at hread
      obtain ⟨hnear, ds, hds, hresume⟩ := Query.stops .group source fault near rest hread
      exact ⟨ds, hds, hnear, viable_of_resumable hresume⟩

/-- The comparator of `b` is not known, but `(x or (b))` is a query. -/
theorem viable_of_parse_eq_error_comparator :
    let parser := ofSource "(x or (b =>5)".toList
    parser.parse.1 = .error (.grammar (.unknownComparator "=>") " =>5)") ∧
      ∃ consumed, parser.source = consumed ++ parser.parse.2.rest ∧
        parser.parse.2.position = utf8Size consumed ∧
        " =>5)" = String.ofList (parser.parse.2.rest.take 10) ∧
        (Fault.unknownComparator "=>").Viable consumed := by
  have h : (ofSource "(x or (b =>5)".toList).parse.1 =
      .error (.grammar (.unknownComparator "=>") " =>5)") := by
    decide +kernel
  exact ⟨h, viable_of_parse_eq_error h⟩

end Parser

end FilterQuery
