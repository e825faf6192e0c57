import FilterQuery.Proofs.NumericTokens
import FilterQuery.Proofs.Wildcards
import FilterQuery.Proofs.WildcardSize

/-!
# The literals of values

A value is found by the marks around it, and what stands for its literal is the text with the marks,
which are told apart anew. `Token.Value.StandsFor` says which literal a value has by its kind and the
text between its marks alone, and the two agree on every value that is found in a text: whatever is
quoted stays as it is, a backslash takes the next character of a pattern with it, and a bare value
can be refused only because the automata of its wildcard are too big.
-/

namespace FilterQuery

open Text Token Grammar

/-! ### Pairs in patterns -/

namespace Pattern

/-- Takes the backslash away from each pair of a backslash and a slash, and leaves other pairs as
they are. -/
def unescapePairs : List Char → List Char
  | '\\' :: '/' :: rest => '/' :: unescapePairs rest
  | '\\' :: c :: rest => '\\' :: c :: unescapePairs rest
  | c :: rest => c :: unescapePairs rest
  | [] => []

/-- By induction on the pairs. Between slashes no slash stands by itself, so the backslash in front
of a slash always belongs to it. -/
lemma unescapeSlashes_eq_unescapePairs {cs : List Char} (h : RegexBody cs) :
    unescapeSlashes cs = unescapePairs cs := by
  induction h with
  | nil => rfl
  | @escape c cs _ hcs ih =>
    by_cases hc : c = '/'
    · rw [hc, unescapeSlashes, unescapePairs, ih]
    · have hbackslash : ('\\' : Char) = '\\' → (c :: cs).head? ≠ some '/' :=
        fun _ hhead => hc (Option.some.inj hhead)
      rw [unescapeSlashes_cons hbackslash, unescapeSlashes_cons fun _ => head_regexBody hcs, ih,
        unescapePairs]
      exact hc
  | @char c cs _ hbackslash _ ih =>
    rw [unescapeSlashes_cons fun hc => absurd hc hbackslash, ih, unescapePairs]
    · exact fun _ hc _ => hbackslash hc
    · exact fun _ _ hc _ => hbackslash hc

end Pattern

/-! ### Sources -/

section Sources

variable {source : List Char} {ignoreCase : Bool}

lemma Pattern.compile?_of_not_fits {m : Matcher} (hm : Matcher.ofSource? ignoreCase source = some m)
    (hfits : m.fits = false) : compile? ignoreCase (String.ofList source) = none := by
  rw [compile?, String.toList_ofList, hm, Option.filter_some, hfits]
  rfl

lemma Literal.ofSource_of_compile?_eq_none
    (h : Pattern.compile? ignoreCase (String.ofList source) = none) :
    ofSource source ignoreCase = .error (String.ofList source) := by
  have hpattern : Pattern.ofSource? (String.ofList source) ignoreCase = none :=
    dif_neg (by rw [h]; exact Bool.false_ne_true)
  simp only [ofSource, hpattern]

end Sources

namespace Literal

/-- The text is neither a number nor a truth value. -/
def IsPlain (cs : List Char) : Prop :=
  readNumber? cs = none ∧ ∀ b, (cs, b) ∉ truthWords

/-- Neither a numeral nor a word for a truth value has a star. -/
lemma isPlain_of_star {cs : List Char} (h : '*' ∈ cs) : IsPlain cs := by
  constructor
  · cases hnumeral : Decimal.read? cs with
    | none => rw [readNumber?, hnumeral]
    | some d =>
      obtain ⟨-, -, hmem⟩ := Decimal.mem_of_read? hnumeral
      exact absurd (hmem '*' h) (by decide)
  · exact not_mem_truthWords_of_star h

end Literal

namespace Token.Value

/-- What the value of a text stands for. -/
inductive StandsFor : Token.Value → Except ParseError Literal → Prop where
  | objectId {l : ObjectIdLiteral} : StandsFor (.objectId l) (l.decode.map .objectId)
  | number {cs : List Char} {x : Double} :
      Literal.readNumber? cs = some x → StandsFor (.bare cs) (.ok (.number x))
  | boolean {cs : List Char} {b : Bool} :
      (cs, b) ∈ Literal.truthWords → StandsFor (.bare cs) (.ok (.boolean b))
  /-- A wildcard is a pattern that minds letter case and matches what fills in the wildcard. -/
  | wildcard {cs : List Char} {p : Pattern} :
      Literal.IsPlain cs → '*' ∈ cs → p.source = String.ofList (Literal.wildcardSource cs) →
      p.ignoreCase = false → (∀ s : String, p.isMatch s = true ↔ Fills cs s.toList) →
      StandsFor (.bare cs) (.ok (.regex p))
  /-- The only fault that a bare value can have is that its automata do not fit. -/
  | hugeWildcard {cs : List Char} {m : Pattern.Matcher} :
      Literal.IsPlain cs → '*' ∈ cs →
      Pattern.Matcher.ofSource? false (Literal.wildcardSource cs) = some m → m.fits = false →
      StandsFor (.bare cs)
        (.error (.invalidPattern (String.ofList (Literal.wildcardSource cs)) false))
  | string {cs : List Char} :
      Literal.IsPlain cs → '*' ∉ cs → StandsFor (.bare cs) (.ok (.string (String.ofList cs)))
  | date {quote : Char} {cs : List Char} {t : Instant} :
      Instant.read? cs = some t → StandsFor (.quoted quote cs) (.ok (.date t))
  | quotedString {quote : Char} {cs : List Char} :
      Instant.read? cs = none → StandsFor (.quoted quote cs) (.ok (.string (String.ofList cs)))
  | regex {cs : List Char} {ignoreCase : Bool} {p : Pattern} :
      p.source = String.ofList (Pattern.unescapePairs cs) → p.ignoreCase = ignoreCase →
      StandsFor (.regex cs ignoreCase) (.ok (.regex p))
  | invalidRegex {cs : List Char} {ignoreCase : Bool} :
      Pattern.compile? ignoreCase (String.ofList (Pattern.unescapePairs cs)) = none →
      StandsFor (.regex cs ignoreCase)
        (.error (.invalidPattern (String.ofList (Pattern.unescapePairs cs)) ignoreCase))

section Literals

variable {cs text after : List Char} {v : Token.Value} {r : Except ParseError Literal}

lemma literal_of_isPlain (hrun : LongestRun isBareChar cs after) (h : Literal.IsPlain cs) :
    (bare cs).literal = (if '*' ∈ cs then Literal.ofSource (Literal.wildcardSource cs) false
      else .ok (.string (String.ofList cs))).mapError (.invalidPattern · false) := by
  obtain ⟨c, tail, rfl, hc⟩ := head_of_longestRun hrun
  simp only [literal, h.1]
  rw [Pattern.ofText_bare hc, Literal.ofBare_of_not_mem_truthWords h.2]

lemma regexBody_of_valueText {ignoreCase : Bool} (h : ValueText (regex cs ignoreCase) text after) :
    RegexBody cs := by
  cases h with
  | regex hbody => exact hbody
  | regexIgnoreCase hbody => exact hbody

/-- By cases on how the literal is found, the reader finds the same one. -/
lemma StandsFor.literal_eq (h : v.StandsFor r) (htext : ValueText v text after) :
    v.literal = r := by
  cases h with
  | objectId => rfl
  | number hx => simp only [literal, hx]
  | boolean hword =>
    simp only [Literal.truthWords, List.mem_cons, Prod.mk.injEq, List.not_mem_nil, or_false] at hword
    obtain ⟨rfl, rfl⟩ | ⟨rfl, rfl⟩ | ⟨rfl, rfl⟩ | ⟨rfl, rfl⟩ := hword <;> rfl
  | @wildcard cs p hplain hstar hsource hcase _ =>
    cases htext with
    | bare hrun =>
      have hread : Literal.ofSource p.source.toList false = .ok (.regex p) :=
        Literal.ofSource_eq_ok_iff.mpr ⟨rfl, hcase⟩
      rw [hsource, String.toList_ofList] at hread
      rw [literal_of_isPlain hrun hplain, if_pos hstar, hread]
      rfl
  | hugeWildcard hplain hstar hm hfits =>
    cases htext with
    | bare hrun =>
      rw [literal_of_isPlain hrun hplain, if_pos hstar,
        Literal.ofSource_of_compile?_eq_none (Pattern.compile?_of_not_fits hm hfits)]
      rfl
  | string hplain hstar =>
    cases htext with
    | bare hrun =>
      rw [literal_of_isPlain hrun hplain, if_neg hstar]
      rfl
  | date ht =>
    cases htext with
    | quoted hquote _ => rw [literal_quoted hquote, Literal.ofQuoted, ht]
  | quotedString ht =>
    cases htext with
    | quoted hquote _ => rw [literal_quoted hquote, Literal.ofQuoted, ht]
  | regex hsource hcase =>
    have hpairs := Pattern.unescapeSlashes_eq_unescapePairs (regexBody_of_valueText htext)
    refine literal_regex_eq_ok_iff.mpr ⟨?_, hcase⟩
    rw [hsource, String.toList_ofList, hpairs]
  | invalidRegex hnone =>
    rw [literal_regex, Pattern.unescapeSlashes_eq_unescapePairs (regexBody_of_valueText htext),
      Literal.ofSource_of_compile?_eq_none hnone]
    rfl

lemma exists_standsFor_bare (cs : List Char) : ∃ r, (bare cs).StandsFor r := by
  cases hnumber : Literal.readNumber? cs with
  | some x => exact ⟨_, .number hnumber⟩
  | none =>
    by_cases hword : ∃ b, (cs, b) ∈ Literal.truthWords
    · obtain ⟨b, hb⟩ := hword
      exact ⟨_, .boolean hb⟩
    · have hplain : Literal.IsPlain cs := ⟨hnumber, not_exists.mp hword⟩
      by_cases hstar : '*' ∈ cs
      · have hm := Pattern.Matcher.ofSource?_wildcardSource cs
        cases hfits : (Pattern.Matcher.regular (.wildcard cs)).fits with
        | true =>
          obtain ⟨p, hp, hcase, hmatch⟩ := Literal.exists_regex_of_fits hm hfits
          have hsource : p.source = String.ofList (Literal.wildcardSource cs) := by
            rw [← (Literal.ofSource_eq_ok_iff.mp hp).1, String.ofList_toList]
          refine ⟨_, .wildcard hplain hstar hsource hcase fun s => ?_⟩
          rw [hmatch]
          exact Regex.isMatch_wildcard
        | false => exact ⟨_, .hugeWildcard hplain hstar hm hfits⟩
      · exact ⟨_, .string hplain hstar⟩

lemma exists_standsFor (v : Token.Value) : ∃ r, v.StandsFor r := by
  cases v with
  | objectId l => exact ⟨_, .objectId⟩
  | bare cs => exact exists_standsFor_bare cs
  | quoted quote cs =>
    cases ht : Instant.read? cs with
    | some t => exact ⟨_, .date ht⟩
    | none => exact ⟨_, .quotedString ht⟩
  | regex cs ignoreCase =>
    by_cases hcompile :
        (Pattern.compile? ignoreCase (String.ofList (Pattern.unescapePairs cs))).isSome
    · exact ⟨_, .regex (p := ⟨_, ignoreCase, hcompile⟩) rfl rfl⟩
    · exact ⟨_, .invalidRegex (Option.not_isSome_iff_eq_none.mp hcompile)⟩

/-- The literal of a value that is found in a text is the one that the value stands for. -/
theorem literal_eq_iff_standsFor (h : valueText? cs = some (v, after)) :
    v.literal = r ↔ v.StandsFor r := by
  obtain ⟨text, -, htext⟩ := valueText_of_valueText? h
  constructor
  · rintro rfl
    obtain ⟨r, hr⟩ := exists_standsFor v
    rwa [hr.literal_eq htext]
  · exact fun hr => hr.literal_eq htext

/-- The backslash of the first pair takes the second backslash with it, and the slash is in a pair of
its own, so that only the last of the three backslashes is taken away. -/
theorem literal_escapedSlash :
    (regex "\\\\\\/".toList true).literal =
      .ok (.regex ⟨"\\\\/", true, by decide +kernel⟩) := by
  have hread : valueText? "/\\\\\\//i and".toList =
      some (regex "\\\\\\/".toList true, " and".toList) := rfl
  exact (literal_eq_iff_standsFor hread).mpr (.regex rfl rfl)

/-- A wildcard with too many characters before its first star is refused. -/
lemma literal_hugeWildcard (rest : List Char) (hbare : ∀ c ∈ cs ++ '*' :: rest, isBareChar c = true)
    (hstar : '*' ∉ cs) (h : Regex.Automaton.maxBytes < 32 * cs.length) :
    (bare (cs ++ '*' :: rest)).literal =
      .error (.invalidPattern (String.ofList (Literal.wildcardSource (cs ++ '*' :: rest)))
        false) := by
  have hmem : '*' ∈ cs ++ '*' :: rest := List.mem_append_right cs List.mem_cons_self
  have htext : ValueText (bare (cs ++ '*' :: rest)) (cs ++ '*' :: rest) [] :=
    .bare ⟨List.ne_nil_of_mem hmem, hbare, fun _ hc => nomatch hc⟩
  have hvalue := StandsFor.hugeWildcard (Literal.isPlain_of_star hmem) hmem
    (Pattern.Matcher.ofSource?_wildcardSource _) (Regex.fits_wildcard_of_star rest hstar h)
  exact hvalue.literal_eq htext

/-- Not every bare value stands for a literal. -/
theorem not_forall_exists_literal_bare :
    ¬∀ cs b after : List Char, valueText? cs = some (bare b, after) →
      ∃ value, (bare b).literal = .ok value := by
  intro h
  have hbare : ∀ c ∈ List.replicate 500000 'a' ++ ['*'], isBareChar c = true := by
    intro c hc
    obtain hc | hc := List.mem_append.mp hc
    · rw [List.eq_of_mem_replicate hc]
      decide
    · rw [List.mem_singleton.mp hc]
      decide
  have hrun : LongestRun isBareChar (List.replicate 500000 'a' ++ ['*']) [] :=
    ⟨List.append_ne_nil_of_right_ne_nil _ (List.cons_ne_nil _ _), hbare, fun _ hc => nomatch hc⟩
  have hstar : '*' ∉ List.replicate 500000 'a' :=
    fun hc => absurd (List.eq_of_mem_replicate hc) (by decide)
  have hsize : Regex.Automaton.maxBytes < 32 * (List.replicate 500000 'a').length := by
    rw [List.length_replicate]
    decide
  obtain ⟨value, hvalue⟩ := h _ _ _ (valueText?_append (.bare hrun) fun hi => nomatch hi)
  rw [literal_hugeWildcard [] hbare hstar hsize] at hvalue
  cases hvalue

end Literals

end Token.Value

end FilterQuery
