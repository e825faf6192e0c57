import FilterQuery.Proofs.StagedDecoding
import FilterQuery.Proofs.TokenExpressions
import FilterQuery.Proofs.ValueLiterals
import FilterQuery.Proofs.ViablePrefix

/-!
# Causes of errors

Every error of a query comes from a token of it or from a parenthesis that is not there, and it says
which. An error is followed from the group in which it is reported down to the token that the reader
refused, which is a part of the text of the query.
-/

namespace FilterQuery

open Text Token Grammar

/-- The messages of the faults that a query can have. -/
inductive Fault.Reported : String → Prop where
  | missingOpen : Reported "missing opening '('"
  | missingClose : Reported "missing closing ')'"
  | unexpectedInput : Reported "unexpected input after expression"
  | unknownComparator {token : String} :
      token ≠ "" → (∀ c ∈ token.toList, c ∈ [':', '>', '<', '!', '=']) →
      (∀ comparator, ¬ComparatorToken token.toList comparator) →
      Reported ("unknown comparator `" ++ token ++ "`")
  | regexComparison {comparator name : String} :
      comparator ∈ ["gt", "lt", "gte", "lte", "ne"] →
      Reported ("comparator `" ++ comparator ++
        "` cannot be used with a regular expression on " ++ ("$$" ++ name))

/-- `e.Cause text`: something in the text causes the error `e`. -/
inductive ParseError.Cause (text : List Char) : ParseError → Prop where
  | grammar {fault : Fault} {near : String} :
      Fault.Reported fault.message → Cause text (.grammar fault near)
  | regex {body : List Char} {ignoreCase : Bool} :
      '/' :: body ++ ['/'] <:+: text → RegexBody body →
      Pattern.compile? ignoreCase (String.ofList (Pattern.unescapePairs body)) = none →
      Cause text (.invalidPattern (String.ofList (Pattern.unescapePairs body)) ignoreCase)
  /-- The source of a wildcard is always read, but its automata can be too big. -/
  | hugeWildcard {token : List Char} {m : Pattern.Matcher} :
      token <:+: text → (∀ c ∈ token, isBareChar c = true) → '*' ∈ token →
      Pattern.Matcher.ofSource? false (Literal.wildcardSource token) = some m → m.fits = false →
      Cause text (.invalidPattern (String.ofList (Literal.wildcardSource token)) false)
  /-- The text of an identifier literal is refused as JSON, before its digits are looked at. -/
  | objectId {l : ObjectIdLiteral} {expected : Expected} {place : Place} :
      l.text <:+: text → l.Spaced → ¬Json.IsText l.text →
      Cause text (.invalidObjectId (String.ofList l.text) expected place)

section Messages

variable {fault : Fault} {token : List Char}

lemma Fault.reported_of_comparator (h : comparator token = .error fault)
    (hchars : ∀ c ∈ token, isComparatorChar c = true) : Reported fault.message := by
  obtain ⟨text, rfl⟩ := Query.unknownComparator_of_comparator h
  have htext : text = String.ofList token := by
    unfold comparator at h
    extract_lets core at h
    split at h
    · cases h
    · split at h
      · cases h
      · cases h
        rfl
  have hnone : ∀ cmp, ¬ComparatorToken token cmp := by
    intro cmp hcmp
    rw [comparator_of_token hcmp] at h
    cases h
  subst htext
  apply Reported.unknownComparator
  · intro hempty
    rw [String.ofList_eq_empty_iff] at hempty
    rw [hempty] at h
    cases h
  · rw [String.toList_ofList]
    intro c hc
    simpa using isComparatorChar_iff.mp (hchars c hc)
  · rwa [String.toList_ofList]

lemma Fault.reported_of_ofComparison {name : List Char} {value : Literal}
    {cmp : Option Comparator} (h : Query.ofComparison name value cmp = .error fault) :
    Reported fault.message := by
  unfold Query.ofComparison at h
  dsimp only at h
  split at h
  · rename_i hvariable
    obtain ⟨rest, rfl⟩ := List.isPrefixOf_iff_prefix.mp hvariable
    split at h
    · cases h
    · rename_i c
      obtain rfl := Except.error.inj h
      have hmem : c.name ∈ ["gt", "lt", "gte", "lte", "ne"] := by
        cases c <;> decide
      have hreported := @Reported.regexComparison c.name (String.ofList rest) hmem
      rw [← ofList_dollars] at hreported
      exact hreported
    · cases h
  · cases h

end Messages

namespace ParseError

/-- A cause is kept if tokens are, of which none begins or ends with a parenthesis. -/
lemma Cause.imp {cs ds : List Char} {e : ParseError} (h : e.Cause cs)
    (hds : ∀ token : List Char, token <:+: cs → (∀ c ∈ token.head?, c ≠ '(') →
      (∀ c ∈ token.getLast?, c ≠ ')') → token <:+: ds) : e.Cause ds := by
  cases h with
  | grammar h => exact .grammar h
  | regex hoccurs hbody hnone =>
    refine .regex (hds _ hoccurs ?_ ?_) hbody hnone
    · rintro c ⟨⟩
      decide
    · intro c hc
      cases List.getLast?_concat.symm.trans hc
      decide
  | hugeWildcard hoccurs hbare hstar hm hfits =>
    refine .hugeWildcard (hds _ hoccurs ?_ ?_) hbare hstar hm hfits
    · rintro c hc rfl
      exact absurd (hbare _ (List.mem_of_mem_head? hc)) (by decide)
    · rintro c hc rfl
      exact absurd (hbare _ (List.mem_of_mem_getLast? hc)) (by decide)
  | objectId hoccurs hl hno =>
    refine .objectId (hds _ hoccurs ?_ ?_) hl hno
    · rintro c ⟨⟩
      decide
    · intro c hc
      cases List.getLast?_concat.symm.trans hc
      decide

lemma Cause.mono {cs ds : List Char} {e : ParseError} (h : e.Cause cs) (hs : cs <:+: ds) :
    e.Cause ds :=
  h.imp fun _ hoccurs _ _ => hoccurs.trans hs

/-- A fault is reported by its message, whatever stands behind it. -/
lemma cause_of_mapError {cs rest : List Char} {x : Except Fault Query} {e : ParseError}
    (hx : ∀ fault, x = .error fault → Fault.Reported fault.message)
    (h : x.mapError (ofFault rest) = .error e) : e.Cause cs := by
  cases x with
  | error fault =>
    cases h
    exact .grammar (hx fault rfl)
  | ok q => cases h

/-- The values that can be refused are patterns, wildcards and identifiers. -/
lemma cause_of_valueText {v : Token.Value} {text after : List Char} {e : ParseError}
    (h : ValueText v text after) (he : v.literal = .error e) : e.Cause text := by
  obtain ⟨r, hr⟩ := Token.Value.exists_standsFor v
  have heq := hr.literal_eq h
  rw [he] at heq
  subst heq
  cases h with
  | @objectId l _ hl =>
    obtain hplain | ⟨hno, expected, place, herror⟩ := ObjectIdLiteral.plain_or_decode_eq_error hl
    · rw [Token.Value.literal, ObjectIdLiteral.decode_of_plain hplain] at he
      cases he
    · rw [Token.Value.literal, herror] at he
      cases he
      exact .objectId (List.infix_refl _) hl hno
  | bare hrun =>
    cases hr with
    | hugeWildcard _ hstar hm hfits =>
      exact .hugeWildcard (List.infix_refl _) hrun.all hstar hm hfits
  | quoted => cases hr
  | regex hbody =>
    cases hr with
    | invalidRegex hnone => exact .regex (List.infix_refl _) hbody hnone
  | regexIgnoreCase hbody =>
    cases hr with
    | invalidRegex hnone =>
      exact .regex ⟨[], ['i'], by simp⟩ hbody hnone

end ParseError

namespace Query

variable {name cs rest : List Char} {e : ParseError}

/-- A comparison is made of characters of comparators and of the text of a value. -/
lemma text_of_comparison? {c : Comparison} (h : comparison? cs = some (c, rest)) :
    (∀ d ∈ c.comparator, isComparatorChar d = true) ∧
      ∃ text after, ValueText c.value text after ∧ text <:+: cs := by
  simp only [comparison?] at h
  split at h
  · cases h
  rename_i value tail hvalue
  split at h
  · cases h
  obtain ⟨rfl, -⟩ := Prod.mk.inj (Option.some.inj h)
  refine ⟨fun d hd => List.mem_takeWhile_imp hd, ?_⟩
  obtain ⟨text, htext, hvt⟩ := valueText_of_valueText? hvalue
  have hsuffix : text ++ tail <:+ cs := by
    rw [← htext]
    exact (trimStart_suffix _).trans ((List.dropWhile_suffix _).trans (trimStart_suffix cs))
  exact ⟨text, tail, hvt, (List.prefix_append text tail).isInfix.trans hsuffix.isInfix⟩

/-- After a name, a token of the comparison is at fault. -/
lemma cause_of_readComparison (h : (readComparison name cs).toPair = (.error e, rest)) :
    e.Cause cs := by
  rw [toPair_readComparison] at h
  cases hc : comparison? cs with
  | none =>
    obtain ⟨q, hq⟩ := exists_ofComparison_true name
    rw [hc, hq] at h
    cases h
  | some pair =>
    obtain ⟨c, tail⟩ := pair
    obtain ⟨hchars, text, after, hvalue, hoccurs⟩ := text_of_comparison? hc
    rw [hc] at h
    dsimp only at h
    split at h
    · rename_i hf
      cases h
      exact .grammar (Fault.reported_of_comparator hf hchars)
    · rename_i hliteral
      cases h
      exact (ParseError.cause_of_valueText hvalue hliteral).mono hoccurs
    · rename_i hliteral
      cases h
      exact (ParseError.cause_of_valueText hvalue hliteral).mono hoccurs
    · exact ParseError.cause_of_mapError (fun _ => Fault.reported_of_ofComparison)
        (congrArg Prod.fst h)

/-- What a reader refuses is in the text that it has in front of it. -/
def Blames (s : Symbol) (cs : List Char) : Prop :=
  ∀ e rest, (read s cs).toPair = (.error e, rest) → e.Cause cs

lemma blames_part (ih : Blames .group cs) : Blames .part cs := by
  intro e rest h
  change (readPart cs).toPair = _ at h
  cases hname : name? cs with
  | none =>
    rw [toPair_readPart_of_none hname] at h
    exact ih e rest h
  | some pair =>
    obtain ⟨name, tail⟩ := pair
    rw [toPair_readPart_of_name hname] at h
    exact (cause_of_readComparison h).mono (suffix_of_name? hname).isInfix

lemma blames_group (ih : ∀ ds : List Char, ds.length < cs.length → Blames .chain ds) :
    Blames .group cs := by
  intro e rest h
  change (readGroup cs).toPair = _ at h
  by_cases hopen : cs.head? = some '('
  · obtain ⟨tail, rfl⟩ := List.head?_eq_some_iff.mp hopen
    rw [toPair_readGroup_cons] at h
    have hlen : (trimStart tail).length < ('(' :: tail).length :=
      Nat.lt_succ_of_le (trimStart_suffix tail).length_le
    cases hread : (readChain (trimStart tail)).toPair with
    | mk result left =>
      rw [hread] at h
      cases result with
      | error e' =>
        cases h
        exact (ih _ hlen e rest hread).mono
          ((trimStart_suffix tail).trans (List.suffix_cons '(' tail)).isInfix
      | ok q =>
        dsimp only at h
        split at h
        · cases h
        · cases h
          exact .grammar .missingClose
  · rw [toPair_readGroup_of_ne hopen] at h
    cases h
    exact .grammar .missingOpen

lemma blames_chain (ihp : Blames .part cs)
    (ih : ∀ ds : List Char, ds.length < cs.length → Blames .chain ds) : Blames .chain cs := by
  intro e rest h
  change (readChain cs).toPair = _ at h
  rw [toPair_readChain] at h
  cases hpart : (readPart cs).toPair with
  | mk result left =>
    rw [hpart] at h
    cases result with
    | error e' =>
      cases h
      exact ihp e rest hpart
    | ok l =>
      cases hk : keyword? left with
      | none =>
        simp only [hk] at h
        cases h
      | some pair =>
        obtain ⟨op, tail⟩ := pair
        simp only [hk] at h
        have hleft : left <:+ cs := by
          rw [← show (readPart cs).rest = left from congrArg Prod.snd hpart]
          exact (readPart cs).rest_suffix
        obtain ⟨htail, hlen⟩ := suffix_of_keyword? hk
        obtain ⟨hresult, hrest⟩ := Prod.mk.inj h
        have hread : (readChain tail).toPair = (.error e, rest) :=
          Prod.ext (error_of_map hresult) hrest
        exact (ih tail (hlen.trans_le hleft.length_le) e rest hread).mono
          (htail.trans hleft).isInfix

/-- By induction along the readers, every error has its cause in the text. -/
theorem blames (s : Symbol) (cs : List Char) : Blames s cs :=
  read_induction (fun _ ih => blames_group ih) (fun _ ih => blames_part ih)
    (fun _ ihp ih => blames_chain ihp ih) s cs

end Query

lemma Parser.cause_of_source {source : List Char} {e : ParseError}
    (h : (ofSource source).parse.1 = .error e) : e.Cause source := by
  rw [parse_fst, show (ofSource source).rest = source from rfl] at h
  cases hread : (Query.readGroup source).toPair with
  | mk result rest =>
    rw [hread] at h
    split at h
    · cases h
      exact .grammar .unexpectedInput
    · rename_i hpair
      cases hpair
      rw [h] at hread
      exact Query.blames .group source e rest hread

/-! ### The text of a query -/

section Wrapping

variable {text : String} {token : List Char}

/-- The parentheses around a text are no part of a token. -/
lemma infix_of_wrap (h : token <:+: Query.wrap text) (hopen : ∀ c ∈ token.head?, c ≠ '(')
    (hclose : ∀ c ∈ token.getLast?, c ≠ ')') : token <:+: text.toList := by
  rw [Query.wrap, List.cons_append, List.infix_cons_iff, List.prefix_cons_iff,
    List.infix_concat_iff, List.suffix_concat_iff] at h
  obtain (rfl | ⟨rest, rfl, -⟩) | (rfl | ⟨rest, rfl, -⟩) | h := h
  · exact List.nil_infix
  · exact absurd rfl (hopen '(' rfl)
  · exact List.nil_infix
  · exact absurd rfl (hclose ')' List.getLast?_concat)
  · obtain ⟨v, w, -, -, htext⟩ := exists_blank_trim text.toList
    exact h.trans ⟨v, w, htext.symm⟩

lemma ParseError.Cause.of_wrap {e : ParseError} (h : e.Cause (Query.wrap text)) :
    e.Cause text.toList :=
  h.imp fun _ hoccurs hopen hclose => infix_of_wrap hoccurs hopen hclose

end Wrapping

/-! ### Messages that no error has -/

section Messages

lemma take_toList_append {n : ℕ} {s : String} (t : String) (h : n ≤ s.toList.length) :
    (s ++ t).toList.take n = s.toList.take n := by
  rw [String.toList_append, List.take_append_of_le_length h]

/-- The message for a word that joins queries and is not known. -/
def unknownOperator (word : String) : String :=
  "unknown operator `" ++ (word ++ "`")

lemma Fault.Reported.ne_unknownOperator {message : String} (h : Fault.Reported message)
    (word : String) : message ≠ unknownOperator word := by
  have hstart : (unknownOperator word).toList.take 9 = "unknown o".toList :=
    take_toList_append _ (by decide)
  intro heq
  rw [← heq] at hstart
  cases h with
  | missingOpen => exact absurd hstart (by decide)
  | missingClose => exact absurd hstart (by decide)
  | unexpectedInput => exact absurd hstart (by decide)
  | unknownComparator =>
    rw [String.append_assoc, take_toList_append _ (by decide)] at hstart
    exact absurd hstart (by decide)
  | regexComparison =>
    rw [String.append_assoc, String.append_assoc, take_toList_append _ (by decide)] at hstart
    exact absurd hstart (by decide)

lemma ParseError.take_reason (expected : Expected) (place : Place) :
    (reason expected place).toList.take 10 ∈
      ["key must b".toList, "expected `".toList, "expected v".toList] := by
  rw [reason, String.append_assoc]
  cases expected <;> rw [Expected.message, take_toList_append _ (by decide)] <;> decide

lemma ObjectId.Error.take_message (error : ObjectId.Error) :
    error.message.toList.take 10 ∈ ["invalid he".toList, "expected 2".toList] := by
  cases error with
  | character c =>
    dsimp only [message]
    rw [take_toList_append _ (by decide)]
    decide
  | length n =>
    dsimp only [message]
    rw [take_toList_append _ (by decide)]
    decide

/-- A literal is refused with a reason of JSON, and not for what its object holds. -/
lemma ParseError.reason_ne_message (expected : Expected) (place : Place) :
    reason expected place ≠ ObjectId.DecodeError.missing.message ∧
      ∀ error : ObjectId.Error, reason expected place ≠ error.message := by
  have hdisjoint : ∀ cs ∈ ["key must b".toList, "expected `".toList, "expected v".toList],
      cs ∉ ["missing st".toList, "invalid he".toList, "expected 2".toList] := by decide
  have hreason := hdisjoint _ (take_reason expected place)
  rw [List.mem_cons, not_or] at hreason
  constructor
  · intro heq
    apply hreason.1
    rw [heq]
    decide
  · intro error heq
    apply hreason.2
    rw [heq]
    exact error.take_message

end Messages

/-- Every error has a cause in the text of the query, and its message is one of those for causes.
A word that is not known does not come up as a connective, since every match of the expression for
keywords is known; every value is of one of four kinds, since every match of the expression for
values has just one of the four groups; and an identifier literal that is refused is refused as
JSON, by any reader of it. -/
theorem Query.cause_of_parse_eq_error (reader : Json.Reader) :
    (∀ text e, Query.parse text = .error e → e.Cause text.toList) ∧
      (∀ message word, Fault.Reported message → message ≠ unknownOperator word) ∧
      (∀ expected place,
        ParseError.reason expected place ≠ ObjectId.DecodeError.missing.message ∧
          ∀ error : ObjectId.Error, ParseError.reason expected place ≠ error.message) ∧
      (Regex.read? false "^\\s*(?i:(and|or))\\b\\s*".toList = some .keyword ∧
        (∀ (text : List Char) j gs, Regex.Captures text.toArray .keyword 0 j gs →
          ∃ v word after op, text = v ++ word ++ after ∧
            gs = [(1, v.length, (v ++ word).length)] ∧ Connective.ofKeyword? word = some op ∧
            keyword? text = some (op, trimStart after)) ∧
        ∀ text op rest, keyword? text = some (op, rest) →
          ∃ j gs, Regex.Captures text.toArray .keyword 0 j gs ∧ text.drop j = rest) ∧
      (∃ r, Regex.read? false Regex.valueSource.toList = some r ∧
        ∀ text i j gs, Regex.Captures text r i j gs →
          gs.countP (fun g => Regex.isValueGroup g.1) = 1) ∧
      ∀ l : ObjectIdLiteral, l.Spaced →
        (∃ id, ObjectId.decodeBy reader l.text = .ok id ∧ l.decode = .ok id) ∨
          ∃ reason expected place, ObjectId.decodeBy reader l.text = .error (.json reason) ∧
            l.decode = .error (.invalidObjectId (String.ofList l.text) expected place) := by
  refine ⟨fun text e h => ?_, fun message word h => h.ne_unknownOperator word,
    ParseError.reason_ne_message, ⟨Regex.read?_keyword, fun text j gs h => ?_,
    fun text op rest h => ?_⟩, Regex.countP_captures_value,
    fun l hl => ObjectIdLiteral.decodeBy_text reader hl⟩
  · exact (Parser.cause_of_source h).of_wrap
  · exact Regex.keyword?_of_captures h
  · exact Regex.exists_captures_of_keyword? h

/-- A comparator that is not known, and the literal of an identifier that is all zeros. -/
theorem Query.cause_of_parse_eq_error_zeros :
    Query.parse "a => 5" = .error (.grammar (.unknownComparator "=>") " => 5)") ∧
      (ParseError.grammar (.unknownComparator "=>") " => 5)").Cause "a => 5".toList ∧
      ∃ l : ObjectIdLiteral, l.digits = List.replicate 24 '0' ∧
        ObjectId.decodeBy .oneMembers l.text = .ok ⟨List.replicate 12 0, rfl⟩ := by
  have hparse : Query.parse "a => 5" =
      .error (.grammar (.unknownComparator "=>") " => 5)") := by
    decide +kernel
  obtain ⟨hcause, -, -, -, -, hdecode⟩ := cause_of_parse_eq_error Json.Reader.oneMembers
  refine ⟨hparse, hcause _ _ hparse, .ofId ⟨List.replicate 12 0, rfl⟩, rfl, ?_⟩
  obtain ⟨id, hid, hliteral⟩ | ⟨_, _, _, -, hliteral⟩ :=
    hdecode _ (ObjectIdLiteral.spaced_ofId ⟨List.replicate 12 0, rfl⟩)
  · rw [ObjectIdLiteral.decode_ofId] at hliteral
    cases hliteral
    exact hid
  · rw [ObjectIdLiteral.decode_ofId] at hliteral
    cases hliteral

end FilterQuery
