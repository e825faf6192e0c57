import FilterQuery.Proofs.Composition
import FilterQuery.Proofs.CursorWalk

/-!
# Parsing one source after another

A parser that has read a query in parentheses stops right behind it, whatever comes next. From there
on it does what a parser does that has been given only the rest of the source. The two are in step:
they have the same rest in front of them, and their positions differ by the text that one of them
has behind it.
-/

namespace FilterQuery

open Text Grammar

namespace Grammar

/-- A query in parentheses is one in front of any text, as its last parenthesis closes it. -/
lemma IsGroup.derives {cs : List Char} {q : Query} (h : IsGroup cs q) (after : List Char) :
    Derives .group cs q after := by
  cases h with
  | group hv hchain hw => exact .group hv (hchain.congr (cuts_closing hw after)) hw

end Grammar

namespace Parser

/-- `p` stands where `q` does, and has one more text behind it. -/
structure InStep (behind : List Char) (p q : Parser) : Prop where
  source_eq : p.source = behind ++ q.source
  rest_eq : p.rest = q.rest

namespace InStep

variable {behind : List Char} {p q : Parser}

lemma position_eq (h : InStep behind p q) : p.position = utf8Size behind + q.position := by
  have hle := utf8Size_le_of_suffix q.rest_suffix
  rw [position, position, h.source_eq, h.rest_eq, utf8Size_append]
  omega

/-- A call looks only at what is left of the source. -/
lemma parse_eq (h : InStep behind p q) : p.parse.1 = q.parse.1 := by
  rw [parse_fst, parse_fst, h.rest_eq]

lemma next (h : InStep behind p q) : InStep behind p.parse.2 q.parse.2 := by
  constructor
  · rw [parse_source, parse_source, h.source_eq]
  · rw [parse_rest, parse_rest, h.rest_eq]

/-- By induction on the number of calls, the two stay in step. -/
lemma after_calls (h : InStep behind p q) (k : ℕ) : InStep behind (p.after k) (q.after k) := by
  induction k with
  | zero => exact h
  | succ k ih => exact ih.next

end InStep

section Append

variable {cs ds : List Char} {q : Query}

lemma readGroup_append (h : (ofSource cs).parse.1 = .ok q) (ds : List Char) :
    (Query.readGroup (cs ++ ds)).toPair = (.ok q, ds) := by
  rw [parse_eq_ok_iff_isGroup] at h
  exact Query.readGroup_eq_ok_iff.mpr ⟨cs, rfl, h.derives ds⟩

/-- The call that reads the query leaves the parser in step with one that has only the rest. -/
lemma inStep_parse_append (h : (ofSource cs).parse.1 = .ok q) (ds : List Char) :
    InStep cs (ofSource (cs ++ ds)).parse.2 (ofSource ds) := by
  constructor
  · rw [parse_source]
    rfl
  · rw [parse_rest]
    exact congrArg Prod.snd (readGroup_append h ds)

/-- If a query in parentheses is followed by some text, the first call stops in front of the text
and refuses it. All further calls give what they give on the text alone, at positions that differ by
the size of the query. -/
theorem parse_append_of_parse (h : (ofSource cs).parse.1 = .ok q) (hds : ds ≠ []) :
    let p := ofSource (cs ++ ds)
    let fresh := ofSource ds
    p.parse.1 = .error (.grammar .unexpectedInput (String.ofList (ds.take 10))) ∧
      p.parse.2.position = utf8Size cs ∧
      ∀ k : ℕ, (p.after (k + 1)).parse.1 = (fresh.after k).parse.1 ∧
        (p.after (k + 1)).parse.2.position =
          utf8Size cs + (fresh.after k).parse.2.position := by
  intro p fresh
  have hstep : InStep cs p.parse.2 fresh := inStep_parse_append h ds
  refine ⟨?_, ?_, fun k => ?_⟩
  · obtain ⟨c, tail, rfl⟩ := List.exists_cons_of_ne_nil hds
    have hread : (Query.readGroup p.rest).toPair = (.ok q, c :: tail) := readGroup_append h _
    rw [parse_fst, hread]
    rfl
  · have hstart : fresh.position = 0 := Nat.sub_self _
    rw [hstep.position_eq, hstart, Nat.add_zero]
  · have hafter : p.after (k + 1) = p.parse.2.after k := by
      rw [Nat.add_comm, after_add]
      rfl
    rw [hafter]
    have hcalls := hstep.after_calls k
    exact ⟨hcalls.parse_eq, hcalls.next.position_eq⟩

/-- The first query has a character of two bytes, and the second call reads the other query. -/
theorem parse_append_of_parse_field :
    let p := ofSource "(é:1)(b)".toList
    p.parse.1 = .error (.grammar .unexpectedInput "(b)") ∧ p.parse.2.position = 6 ∧
      (p.after 1).parse.1 = .ok (.field "b" (.boolean true) none) ∧
      (p.after 1).parse.2.position = 9 := by
  have hparse : (ofSource "(é:1)".toList).parse.1 =
      .ok (.field "é" (.number ⟨false, 0x3FF0000000000000, by decide⟩) none) := by
    decide +kernel
  have hrest : "(b)".toList ≠ [] := by
    decide
  obtain ⟨hfirst, hposition, hcalls⟩ := parse_append_of_parse hparse hrest
  obtain ⟨hresult, hnext⟩ := hcalls 0
  have hfresh : (ofSource "(b)".toList).parse.1 = .ok (.field "b" (.boolean true) none) := by
    decide +kernel
  have hend : (ofSource "(b)".toList).parse.2.position = 3 := by
    decide +kernel
  exact ⟨hfirst, hposition, hresult.trans hfresh, hnext.trans (congrArg (6 + ·) hend)⟩

end Append

end Parser

end FilterQuery
