import FilterQuery.Proofs.LeafTexts

/-!
# The texts of patterns

A pattern that was read, from a pattern literal or from a wildcard, has a source in which no slash
follows a backslash that takes it along. When its slashes are escaped, the source is therefore ended
by the first slash that is not escaped, and the text of the pattern determines the pattern.
-/

namespace FilterQuery

open Text Token Grammar

namespace Pattern

/-- The escaped source can stand between slashes. -/
def Delimited (p : Pattern) : Prop :=
  RegexBody (escapeSlashes p.source.toList)

section Bodies

variable {cs : List Char}

lemma head_regexBody (h : RegexBody cs) : cs.head? ≠ some '/' := by
  cases h with
  | nil => exact fun hhead => nomatch hhead
  | escape => exact fun hhead => absurd (Option.some.inj hhead) (by decide)
  | char hslash => exact fun hhead => hslash (Option.some.inj hhead)

/-- In the body of a pattern literal every slash has a backslash of its own. -/
lemma escapeSlashes_unescapeSlashes (h : RegexBody cs) :
    escapeSlashes (unescapeSlashes cs) = cs := by
  induction h with
  | nil => rfl
  | @escape c cs _ hcs ih =>
    by_cases hc : c = '/'
    · rw [hc]
      change '\\' :: '/' :: escapeSlashes (unescapeSlashes cs) = _
      rw [ih]
    · have hbackslash : ('\\' : Char) = '\\' → (c :: cs).head? ≠ some '/' :=
        fun _ hhead => hc (Option.some.inj hhead)
      rw [unescapeSlashes_cons hbackslash, unescapeSlashes_cons fun _ => head_regexBody hcs,
        escapeSlashes_cons_of_ne (by decide), escapeSlashes_cons_of_ne hc, ih]
  | char hslash hbackslash _ ih =>
    rw [unescapeSlashes_cons fun hc => absurd hc hbackslash, escapeSlashes_cons_of_ne hslash, ih]

/-- A backslash takes the next character with it, which is neither a slash nor a line feed. -/
def PlainPairs : List Char → Prop
  | [] => True
  | ['\\'] => False
  | '\\' :: c :: rest => c ≠ '/' ∧ c ≠ '\n' ∧ PlainPairs rest
  | _ :: rest => PlainPairs rest

lemma plainPairs_cons {c : Char} (hc : c ≠ '\\') : PlainPairs (c :: cs) ↔ PlainPairs cs := by
  rw [PlainPairs]
  · exact fun hbackslash _ => hc hbackslash
  · exact fun _ _ hbackslash _ => hc hbackslash

lemma regexBody_cons {c : Char} (hc : c ≠ '\\') : RegexBody (c :: cs) ↔ c ≠ '/' ∧ RegexBody cs := by
  constructor
  · intro h
    cases h with
    | escape => exact absurd rfl hc
    | char hslash _ h => exact ⟨hslash, h⟩
  · exact fun ⟨hslash, h⟩ => .char hslash hc h

lemma regexBody_pair {c : Char} : RegexBody ('\\' :: c :: cs) ↔ c ≠ '\n' ∧ RegexBody cs := by
  constructor
  · intro h
    cases h with
    | escape hline h => exact ⟨hline, h⟩
    | char _ hbackslash => exact absurd rfl hbackslash
  · exact fun ⟨hline, h⟩ => .escape hline h

/-- By induction on the pairs of the source. If a slash were taken along, then the backslash that is
put in front of it would be taken instead, and the slash would end the literal. -/
lemma regexBody_escapeSlashes_iff : RegexBody (escapeSlashes cs) ↔ PlainPairs cs := by
  fun_induction PlainPairs cs with
  | case1 => exact iff_true_intro .nil
  | case2 =>
    refine iff_false_intro fun h => ?_
    cases h with
    | char _ hbackslash => exact absurd rfl hbackslash
  | case3 c rest ih =>
    rw [escapeSlashes_cons_of_ne (by decide)]
    by_cases hslash : c = '/'
    · rw [hslash]
      refine iff_of_false (fun h => ?_) (fun h => h.1 rfl)
      exact head_regexBody (regexBody_pair.mp h).2 rfl
    · rw [escapeSlashes_cons_of_ne hslash, regexBody_pair, ih]
      exact (and_iff_right hslash).symm
  | case4 c rest hlast hpair ih =>
    have hbackslash : c ≠ '\\' := by
      rintro rfl
      cases rest with
      | nil => exact hlast rfl rfl
      | cons d rest => exact hpair d rest rfl rfl
    by_cases hslash : c = '/'
    · rw [hslash]
      change RegexBody ('\\' :: '/' :: escapeSlashes rest) ↔ _
      rw [regexBody_pair, ih]
      exact and_iff_right (by decide)
    · rw [escapeSlashes_cons_of_ne hslash, regexBody_cons hbackslash, ih]
      exact and_iff_right hslash

end Bodies

/-! ### Wildcards -/

lemma plainPairs_wildcardChar {c : Char} {rest : List Char} :
    PlainPairs (Literal.wildcardChar c ++ rest) ↔ c ≠ '/' ∧ PlainPairs rest := by
  unfold Literal.wildcardChar
  split_ifs with hstar hspecial
  · rw [hstar]
    exact (and_iff_right (by decide)).symm
  · have hline : c ≠ '\n' := by
      rintro rfl
      exact absurd hspecial (by decide)
    exact and_congr_right fun _ => and_iff_right hline
  · have hslash : c ≠ '/' := by
      rintro rfl
      exact hspecial rfl
    have hbackslash : c ≠ '\\' := by
      rintro rfl
      exact hspecial rfl
    rw [List.singleton_append, plainPairs_cons hbackslash]
    exact (and_iff_right hslash).symm

/-- The slashes of a wildcard get a backslash that takes them along. -/
lemma plainPairs_wildcardSource {cs : List Char} :
    PlainPairs (Literal.wildcardSource cs) ↔ '/' ∉ cs := by
  have hchars : PlainPairs (cs.flatMap Literal.wildcardChar ++ ['$']) ↔ '/' ∉ cs := by
    induction cs with
    | nil => exact iff_of_true trivial List.not_mem_nil
    | cons c cs ih =>
      rw [List.flatMap_cons, List.append_assoc, plainPairs_wildcardChar, ih, List.mem_cons, not_or,
        ne_comm]
  rw [Literal.wildcardSource, List.cons_append, plainPairs_cons (by decide), hchars]

lemma slash_ne_of_isBareChar {c : Char} (h : isBareChar c = true) : c ≠ '/' := by
  rintro rfl
  exact absurd h (by decide)

/-! ### Patterns that were read -/

section Read

variable {cs : List Char} {ignoreCase : Bool} {p : Pattern}

/-- Among the texts without quotes or slashes only a wildcard is a pattern. -/
lemma source_of_ofBare (h : Literal.ofBare cs = .ok (.regex p)) :
    p.source.toList = Literal.wildcardSource cs := by
  unfold Literal.ofBare at h
  split_ifs at h
  · cases h
  · cases h
  · exact (Literal.ofSource_eq_ok_iff.mp h).1
  · cases h

lemma delimited_of_ofBare (hcs : ∀ c ∈ cs, isBareChar c = true)
    (h : Literal.ofBare cs = .ok (.regex p)) : p.Delimited := by
  rw [Delimited, source_of_ofBare h, regexBody_escapeSlashes_iff, plainPairs_wildcardSource]
  exact fun hslash => slash_ne_of_isBareChar (hcs '/' hslash) rfl

lemma ofText_bare {c : Char} {rest : List Char} (hc : isBareChar c = true) :
    Literal.ofText ignoreCase (c :: rest) = Literal.ofBare (c :: rest) := by
  have hquote : Literal.isQuote c = false := by
    rw [Literal.isQuote, Bool.or_eq_false_iff, beq_eq_false_iff_ne, beq_eq_false_iff_ne]
    constructor
    · rintro rfl
      exact absurd hc (by decide)
    · rintro rfl
      exact absurd hc (by decide)
  rw [Literal.ofText, if_neg (slash_ne_of_isBareChar hc), hquote, if_neg (by decide)]

lemma delimited_of_literal (hbody : RegexBody cs)
    (h : (Token.Value.regex cs ignoreCase).literal = .ok (.regex p)) : p.Delimited := by
  rw [Delimited, (Token.Value.literal_regex_eq_ok_iff.mp h).1, escapeSlashes_unescapeSlashes hbody]
  exact hbody

/-- Every pattern in a query can stand between slashes. -/
theorem delimited_of_readable (h : (Literal.regex p).Readable) : p.Delimited := by
  cases h with
  | @value v text after _ htext hvalue =>
    cases htext with
    | @objectId l =>
      simp only [Token.Value.literal] at hvalue
      cases hl : l.decode <;> rw [hl] at hvalue <;> cases hvalue
    | @bare cs _ hrun =>
      simp only [Token.Value.literal] at hvalue
      split at hvalue
      · cases hvalue
      · have hread := Query.ok_of_mapError hvalue
        obtain ⟨c, rest, rfl⟩ := List.exists_cons_of_ne_nil hrun.ne_nil
        rw [ofText_bare (hrun.all c List.mem_cons_self)] at hread
        exact delimited_of_ofBare hrun.all hread
    | quoted hquote _ =>
      rw [Token.Value.literal_quoted hquote, Literal.ofQuoted] at hvalue
      split at hvalue <;> cases hvalue
    | regex hbody => exact delimited_of_literal hbody hvalue
    | regexIgnoreCase hbody => exact delimited_of_literal hbody hvalue

end Read

/-! ### Their texts -/

/-- The text of a pattern that was read ends at the slash after its source, or at the flag. -/
theorem text_append_inj {p q : Pattern} {r s : List Char} (hp : p.Delimited) (hq : q.Delimited)
    (hr : r.head? ≠ some 'i') (hs : s.head? ≠ some 'i') (h : p.text ++ r = q.text ++ s) :
    p = q ∧ r = s := by
  have hbody (p : Pattern) (hp : p.Delimited) (r : List Char) :
      regexBody? (p.text ++ r).tail =
        some (escapeSlashes p.source.toList, p.options.toList ++ r) := by
    have hread := regexBody?_append hp (p.options.toList ++ r)
    simpa [text] using hread
  have hread := hbody p hp r
  rw [h, hbody q hq s, Option.some.injEq, Prod.mk.injEq] at hread
  obtain ⟨hescaped, hoptions⟩ := hread
  obtain ⟨hflag, hend⟩ := options_append_inj hr hs hoptions.symm
  have hsource : p.source = q.source := by
    have hunescaped := congrArg unescapeSlashes hescaped
    rw [unescapeSlashes_escapeSlashes, unescapeSlashes_escapeSlashes] at hunescaped
    exact (String.toList_inj.mp hunescaped).symm
  exact ⟨eq_of_source hsource hflag, hend⟩

end Pattern

end FilterQuery
