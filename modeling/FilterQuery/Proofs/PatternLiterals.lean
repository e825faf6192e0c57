import FilterQuery.Proofs.PatternTexts
import FilterQuery.Proofs.Writer

/-!
# Pattern literals

The text of a pattern puts its source between slashes and escapes the slashes in it. A pattern
literal of a query comes back as it was typed. A pattern whose source has a backslash that already
takes a slash along does not: the backslash is taken by the one that is put after it, and the text
ends at that slash. This happens to all wildcards with a slash, and to no value of a query.
-/

namespace FilterQuery

open Text Token Grammar

namespace Pattern

section Literals

variable {t cs : List Char} {ignoreCase : Bool} {p : Pattern}

/-- The text of a pattern is the literal that it was read from, with the flag. -/
theorem text_of_ofText (ht : valueText? t = some (.regex cs false, []))
    (h : Literal.ofText ignoreCase t = .ok (.regex p)) :
    p.text = t ++ if ignoreCase then ['i'] else [] := by
  obtain ⟨text, htext, hvalue⟩ := valueText_of_valueText? ht
  rw [List.append_nil] at htext
  subst htext
  cases hvalue with
  | regex hbody =>
    rw [Token.Value.ofText_slashes] at h
    obtain ⟨hsource, hflag⟩ := Literal.ofSource_eq_ok_iff.mp h
    rw [text_eq, hsource, hflag, escapeSlashes_unescapeSlashes hbody]

/-- The slash of the second pair gets its backslash back, and the first pair stays as it is. -/
theorem text_of_ofText_backslashes :
    ∃ p : Pattern, p.source = "\\\\/" ∧
      Literal.ofText true ('/' :: "\\\\\\//".toList) = .ok (.regex p) ∧
      p.text = "/\\\\\\//i".toList := by
  have ht : valueText? ('/' :: "\\\\\\//".toList) =
      some (.regex "\\\\\\/".toList false, []) := rfl
  have hcompile : (compile? true "\\\\/").isSome := by decide +kernel
  have hsource : "\\\\/".toList = Literal.regexSource "\\\\\\//".toList := by decide
  have hread : Literal.ofText true ('/' :: "\\\\\\//".toList) =
      .ok (.regex ⟨"\\\\/", true, hcompile⟩) := by
    rw [Literal.ofText, if_pos rfl, Literal.ofSource_eq_ok_iff]
    exact ⟨hsource, rfl⟩
  exact ⟨_, rfl, hread, text_of_ofText ht hread⟩

lemma ofBare_of_ofText (hslash : t.head? ≠ some '/')
    (h : Literal.ofText ignoreCase t = .ok (.regex p)) : Literal.ofBare t = .ok (.regex p) := by
  unfold Literal.ofText at h
  split at h
  · exact h
  · split_ifs at h with hc
    · exact absurd (congrArg some hc) hslash
    · unfold Literal.ofQuoted at h
      split at h <;> cases h
    · exact h

/-- The text of a wildcard can be told from its slashes, and that of a literal from its source. -/
lemma delimited_iff_of_ofText (h : Literal.ofText ignoreCase t = .ok (.regex p)) :
    p.Delimited ↔ if t.head? = some '/' then PlainPairs p.source.toList else '/' ∉ t := by
  rw [Delimited, regexBody_escapeSlashes_iff]
  split_ifs with hhead
  · rfl
  · rw [source_of_ofBare (ofBare_of_ofText hhead h), plainPairs_wildcardSource]

end Literals

end Pattern

namespace Query

section Texts

variable {name : String} {t : List Char} {ignoreCase : Bool} {p : Pattern}

/-- A pattern is read from its text exactly if its escaped source can stand between slashes. -/
lemma parse_patternText_iff (hname : FieldName name) :
    Query.parse (name ++ ":" ++ String.ofList p.text) = .ok (.field name (.regex p) none) ↔
      p.Delimited := by
  constructor
  · intro h
    cases readable_of_parse h with
    | field _ hreadable => exact Pattern.delimited_of_readable hreadable
  · intro h
    have hread := valueText?_append (Pattern.valueText_of_regexBody h []) fun hi => nomatch hi
    rw [List.append_nil] at hread
    have hproper : Proper Literal.Writable (.field name (.regex p) none) :=
      .field hname ⟨_, _, hread⟩
    have htext : (name ++ ":" ++ String.ofList p.text).toList =
        (field name (.regex p) none).written := by
      simp only [String.toList_append, String.toList_ofList]
      rfl
    have htrim : trim (name ++ ":" ++ String.ofList p.text).toList =
        (field name (.regex p) none).written := by
      rw [htext, trim_written hproper]
    exact parse_of_chain htrim (derives_written hproper [])

/-- The text of a pattern that a text stands for is read as the pattern, unless a backslash of the
source takes a slash or a line feed with it, or the text is a wildcard with a slash. -/
theorem parse_patternText (hname : FieldName name)
    (h : Literal.ofText ignoreCase t = .ok (.regex p)) :
    Query.parse (name ++ ":" ++ String.ofList p.text) = .ok (.field name (.regex p) none) ↔
      if t.head? = some '/' then Pattern.PlainPairs p.source.toList else '/' ∉ t := by
  rw [parse_patternText_iff hname]
  exact Pattern.delimited_iff_of_ofText h

/-- A source with a pair of backslashes in front of a slash. -/
theorem parse_patternText_backslashes :
    Query.parse "f:/\\\\\\/x/" =
      .ok (.field "f" (.regex ⟨"\\\\/x", false, by decide +kernel⟩) none) := by
  have hname : FieldName "f" := ⟨by decide, List.all_eq_true.mp rfl⟩
  have hread : Literal.ofText false "/\\\\\\/x/".toList =
      .ok (.regex ⟨"\\\\/x", false, by decide +kernel⟩) := by
    decide +kernel
  refine (parse_patternText hname hread).mpr ?_
  exact ⟨by decide, by decide, trivial⟩

/-- Not every pattern is read from its text. The backslash that a wildcard puts in front of a slash
is taken by the one that the text puts there. -/
theorem not_forall_parse_patternText :
    ¬∀ (t : List Char) (ignoreCase : Bool) (p : Pattern),
      Literal.ofText ignoreCase t = .ok (.regex p) →
      Query.parse ("f:" ++ String.ofList p.text) = .ok (.field "f" (.regex p) none) := by
  intro h
  let p : Pattern := ⟨"^a\\/b.*$", false, by decide +kernel⟩
  have hread : Literal.ofText false "a/b*".toList = .ok (.regex p) := by decide +kernel
  have htext : "f:" ++ String.ofList p.text = "f:/^a\\\\/b.*$/" := by decide
  have hparse : Query.parse "f:/^a\\\\/b.*$/" = .error (.grammar .missingClose "b.*$/)") := by
    decide +kernel
  have hfield := h "a/b*".toList false p hread
  rw [htext, hparse] at hfield
  cases hfield

end Texts

end Query

end FilterQuery
