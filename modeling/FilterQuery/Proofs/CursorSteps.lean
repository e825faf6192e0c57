import FilterQuery.Proofs.CursorWalk
import Mathlib.Data.List.Infix

/-!
# Steps of a cursor

A `Cursor.Step` asks a cursor something or moves it. `Step.Effect` says what the answer to a step is
and what the cursor moves over, in terms of the characters in front of it and not of bytes. Whatever
steps are taken, none of them is stuck, as long as the cursor is never sent inside of a character
and no position is too large to be added up: it always stands between what it has moved over and the
rest, and each step has its effect on the rest. A cursor that is sent so far beyond the end that the
position overflows is stuck or taken back, as the machine has it.
-/

namespace FilterQuery

open Text

namespace Overflow

variable {o : Overflow} {m n : ℕ}

lemma add?_of_lt (h : m + n < UInt64.size) : o.add? m n = some (m + n) :=
  if_pos h

lemma add?_trap (h : UInt64.size ≤ m + n) : trap.add? m n = none :=
  if_neg (Nat.not_lt_of_le h)

/-- Counting on from zero takes away more than the word `n` has added. -/
lemma add?_wrap (hn : n < UInt64.size) (h : UInt64.size ≤ m + n) :
    ∃ sum, wrap.add? m n = some sum ∧ sum < m := by
  refine ⟨(m + n) % UInt64.size, if_neg (Nat.not_lt_of_le h), ?_⟩
  have hle : (m + n) % UInt64.size ≤ m + n - UInt64.size := by
    rw [Nat.mod_eq_sub_mod h]
    exact Nat.mod_le _ _
  omega

end Overflow

namespace Regex

/-- The first group of a match is a beginning of the text that is searched. -/
lemma exists_of_captures? {r : Regex} {cs : List Char} {groups : Cursor.Captures}
    (h : r.captures? cs = some groups) :
    ∃ taken left gs, cs = taken ++ left ∧ groups = some taken :: gs := by
  obtain ⟨found, -, rfl⟩ := Option.map_eq_some_iff.mp h
  exact ⟨_, _, _, (List.take_append_drop found.stop cs).symm, rfl⟩

end Regex

namespace Cursor

inductive Step where
  | rest
  | isAtEnd
  | next
  /-- Moves on by a number of bytes. -/
  | advance (n : UInt64)
  | skipSpace
  | eatChar (expected : Char)
  | peek (r : Regex)
  | eat (r : Regex)

inductive Answer where
  | text (cs : List Char)
  | truth (b : Bool)
  | char (c : Option Char)
  | captures (found : Option Captures)
  /-- The cursor has been moved, and there is nothing to say. -/
  | moved

/-- The answer to a step and the cursor after it. There is none if the cursor has to be read inside
of a character, or if a position overflows and the machine stops at that. -/
def step? (o : Overflow) (c : Cursor) : Step → Option (Answer × Cursor)
  | .rest => c.rest?.map fun rest => (.text rest, c)
  | .isAtEnd => some (.truth c.isAtEnd, c)
  | .next => c.next?.map fun next => (.char next, c)
  | .advance n => (c.advance? o n).map fun c => (.moved, c)
  | .skipSpace => c.skipSpace?.map fun c => (.moved, c)
  | .eatChar expected => (c.eatChar? expected).map fun (eaten, c) => (.truth eaten, c)
  | .peek r => (c.peek? r).map fun found => (.captures found, c)
  | .eat r => (c.eat? r).map fun (found, c) => (.captures found, c)

def steps? (o : Overflow) (c : Cursor) : List Step → Option (List Answer × Cursor)
  | [] => some ([], c)
  | s :: steps => do
    let (answer, c) ← c.step? o s
    let (answers, c) ← c.steps? o steps
    some (answer :: answers, c)

namespace Step

/-- In front of a rest, a cursor can be sent to where a beginning of the rest ends, or beyond the
end. All other steps can always be taken. -/
def Fits (rest : List Char) : Step → Prop
  | advance n => (∃ cs ∈ rest.inits, utf8Size cs = n.toNat) ∨ utf8Size rest < n.toNat
  | _ => True

/-- The position that a cursor is sent to does not overflow. Inside of the text it is at most the
size of the text, so this is about lengths that go beyond the end. -/
def Counts (position : ℕ) : Step → Prop
  | advance n => position + n.toNat < UInt64.size
  | _ => True

/-- The answer to a step in front of the text `taken ++ left`, of which the cursor moves over the
first part and leaves the second one. -/
inductive Effect : Step → Answer → List Char → List Char → Prop where
  | rest {left} : Effect rest (.text left) [] left
  | isAtEnd {left} : Effect isAtEnd (.truth left.isEmpty) [] left
  | next {left} : Effect next (.char left.head?) [] left
  | advance {n taken left} : utf8Size taken = n.toNat → Effect (advance n) .moved taken left
  | beyondEnd {n taken} : utf8Size taken < n.toNat → Effect (advance n) .moved taken []
  | skipSpace {taken left} :
      Blank taken → (∀ c ∈ left.head?, Unicode.isSpace c = false) → Effect skipSpace .moved taken left
  | eatChar {c left} : Effect (eatChar c) (.truth true) [c] left
  | refuseChar {c left} : left.head? ≠ some c → Effect (eatChar c) (.truth false) [] left
  | peek {r left} : Effect (peek r) (.captures (r.captures? left)) [] left
  | eat {r taken left groups} :
      r.captures? (taken ++ left) = some (some taken :: groups) →
        Effect (eat r) (.captures (some (some taken :: groups))) taken left
  | refuse {r left} : r.captures? left = none → Effect (eat r) (.captures none) [] left

end Step

def Fits (c : Cursor) (s : Step) : Prop :=
  ∀ rest ∈ c.rest?, s.Fits rest

def Counts (c : Cursor) (s : Step) : Prop :=
  s.Counts c.position

/-- Every step has a property where it is taken. -/
def Throughout (o : Overflow) (P : Cursor → Step → Prop) : Cursor → List Step → Prop
  | _, [] => True
  | c, s :: steps => P c s ∧ ∀ result ∈ c.step? o s, Throughout o P result.2 steps

instance (rest : List Char) : (s : Step) → Decidable (s.Fits rest)
  | .advance _ => inferInstanceAs (Decidable (_ ∨ _))
  | .rest | .isAtEnd | .next | .skipSpace | .eatChar _ | .peek _ | .eat _ => isTrue trivial

instance (position : ℕ) : (s : Step) → Decidable (s.Counts position)
  | .advance _ => inferInstanceAs (Decidable (_ < _))
  | .rest | .isAtEnd | .next | .skipSpace | .eatChar _ | .peek _ | .eat _ => isTrue trivial

instance (c : Cursor) (s : Step) : Decidable (c.Fits s) :=
  inferInstanceAs (Decidable (∀ rest ∈ c.rest?, s.Fits rest))

instance (c : Cursor) (s : Step) : Decidable (c.Counts s) :=
  inferInstanceAs (Decidable (s.Counts c.position))

instance decidableThroughout (o : Overflow) (P : Cursor → Step → Prop)
    [∀ c s, Decidable (P c s)] :
    (steps : List Step) → (c : Cursor) → Decidable (c.Throughout o P steps)
  | [], _ => isTrue trivial
  | _ :: steps, _ =>
    have := decidableThroughout o P steps
    inferInstanceAs (Decidable (_ ∧ _))

/-- The cursor stands between two characters of its text, and so divides it. -/
structure Divides (c : Cursor) (consumed rest : List Char) : Prop where
  text_eq : c.text = consumed ++ rest
  position_eq : c.position = utf8Size consumed
  rest?_eq : c.rest? = some rest
  isAtEnd_iff : c.isAtEnd = true ↔ rest = []

section Advance

variable {o : Overflow} {c : Cursor} {n : UInt64}

lemma advance?_of_counts (h : c.Counts (.advance n)) :
    c.advance? o n = some (c.moveOver n.toNat) :=
  congrArg (Option.map c.moveTo) (Overflow.add?_of_lt h)

lemma advance?_trap (h : ¬c.Counts (.advance n)) : c.advance? .trap n = none :=
  congrArg (Option.map c.moveTo) (Overflow.add?_trap (Nat.le_of_not_lt h))

lemma advance?_wrap (h : ¬c.Counts (.advance n)) :
    ∃ next, c.advance? .wrap n = some next ∧ next.position < c.position := by
  obtain ⟨sum, hsum, hlt⟩ := Overflow.add?_wrap n.toNat_lt (Nat.le_of_not_lt h)
  refine ⟨c.moveTo sum, congrArg (Option.map c.moveTo) hsum, ?_⟩
  exact (Nat.min_le_left sum _).trans_lt hlt

end Advance

section Steps

variable {o : Overflow} {text rest : List Char} {s : Step}

lemma divides_before {consumed : List Char} (h : text = consumed ++ rest) :
    (before text rest).Divides consumed rest := by
  have hsuffix : rest <:+ text := ⟨consumed, h.symm⟩
  refine ⟨h, ?_, rest?_before hsuffix, ?_⟩
  · have hsize := utf8Size_append consumed rest
    rw [← h] at hsize
    change utf8Size text - utf8Size rest = utf8Size consumed
    omega
  · rw [isAtEnd_before hsuffix, List.isEmpty_iff]

lemma moveOver_before_of_lt {n : ℕ} (h : rest <:+ text) (hn : utf8Size rest < n) :
    (before text rest).moveOver n = before text [] := by
  have hle := utf8Size_le_of_suffix h
  simp only [moveOver, moveTo, before, utf8Size, mk.injEq, true_and]
  omega

lemma eat?_before_none {r : Regex} (h : rest <:+ text) (hr : r.captures? rest = none) :
    (before text rest).eat? r = some (none, before text rest) := by
  have hstay : (before text ([] ++ rest)).moveOver (utf8Size []) = before text rest :=
    moveOver_before_append h
  rw [eat?, rest?_before h, Option.map_some, hr]
  exact congrArg (fun c => some (none, c)) hstay

lemma eat?_before_some {r : Regex} {taken left : List Char} {groups : Captures}
    (h : taken ++ left <:+ text) (hr : r.captures? (taken ++ left) = some (some taken :: groups)) :
    (before text (taken ++ left)).eat? r =
      some (some (some taken :: groups), before text left) := by
  rw [eat?, rest?_before h, Option.map_some, hr]
  exact congrArg (fun c => some (some (some taken :: groups), c)) (moveOver_before_append h)

/-- A step that fits and does not overflow has its effect on the rest, and takes the cursor in front
of what is left. -/
theorem step?_before (h : rest <:+ text) (hs : s.Fits rest)
    (hcounts : (before text rest).Counts s) :
    ∃ answer taken left, (before text rest).step? o s = some (answer, before text left) ∧
      rest = taken ++ left ∧ s.Effect answer taken left := by
  have hrest := rest?_before h
  cases s with
  | rest =>
    refine ⟨.text rest, [], rest, ?_, rfl, .rest⟩
    rw [step?, hrest, Option.map_some]
  | isAtEnd =>
    refine ⟨.truth rest.isEmpty, [], rest, ?_, rfl, .isAtEnd⟩
    rw [step?, isAtEnd_before h]
  | next =>
    refine ⟨.char rest.head?, [], rest, ?_, rfl, .next⟩
    rw [step?, next?, hrest, Option.map_some, Option.map_some]
  | advance n =>
    obtain ⟨taken, htaken, hn⟩ | hn := hs
    · obtain ⟨left, rfl⟩ := (List.mem_inits taken rest).mp htaken
      refine ⟨.moved, taken, left, ?_, rfl, .advance hn⟩
      rw [step?, advance?_of_counts hcounts, ← hn, moveOver_before_append h, Option.map_some]
    · refine ⟨.moved, rest, [], ?_, (List.append_nil rest).symm, .beyondEnd hn⟩
      rw [step?, advance?_of_counts hcounts, moveOver_before_of_lt h hn, Option.map_some]
  | skipSpace =>
    obtain ⟨w, hw, hsplit⟩ := exists_blank_trimStart rest
    refine ⟨.moved, w, trimStart rest, ?_, hsplit, .skipSpace hw (head_trimStart rest)⟩
    rw [step?, skipSpace?_before h, Option.map_some]
  | eatChar expected =>
    by_cases hhead : rest.head? = some expected
    · obtain ⟨left, rfl⟩ := List.head?_eq_some_iff.mp hhead
      refine ⟨.truth true, [expected], left, ?_, rfl, .eatChar⟩
      rw [step?, eatChar?_before_cons h, Option.map_some]
    · refine ⟨.truth false, [], rest, ?_, rfl, .refuseChar hhead⟩
      rw [step?, eatChar?_before_of_ne h hhead, Option.map_some]
  | peek r =>
    refine ⟨.captures (r.captures? rest), [], rest, ?_, rfl, .peek⟩
    rw [step?, peek?, hrest, Option.map_some, Option.map_some]
  | eat r =>
    cases hr : r.captures? rest with
    | none =>
      refine ⟨.captures none, [], rest, ?_, rfl, .refuse hr⟩
      rw [step?, eat?_before_none h hr, Option.map_some]
    | some found =>
      obtain ⟨taken, left, groups, rfl, rfl⟩ := Regex.exists_of_captures? hr
      refine ⟨.captures (some (some taken :: groups)), taken, left, ?_, rfl, .eat hr⟩
      rw [step?, eat?_before_some h hr, Option.map_some]

lemma steps?_before {steps : List Step} (h : rest <:+ text)
    (hfits : (before text rest).Throughout o Fits steps)
    (hcounts : (before text rest).Throughout o Counts steps) :
    ∃ answers left, (before text rest).steps? o steps = some (answers, before text left) ∧
      left <:+ text := by
  -- Each step leaves the cursor in front of an end of the text, and the steps that are still to be
  -- taken fit and count there.
  induction steps generalizing rest with
  | nil => exact ⟨[], rest, rfl, h⟩
  | cons s steps ih =>
    obtain ⟨hs, hmore⟩ := hfits
    obtain ⟨hcount, hcounts⟩ := hcounts
    obtain ⟨answer, taken, next, hstep, rfl, -⟩ := step?_before h (hs rest (rest?_before h)) hcount
    have hnext : next <:+ text := (List.suffix_append taken next).trans h
    obtain ⟨answers, left, hsteps, hleft⟩ := ih hnext (hmore _ hstep) (hcounts _ hstep)
    refine ⟨answer :: answers, left, ?_, hleft⟩
    rw [steps?, hstep, Option.bind_eq_bind, Option.bind_some]
    dsimp only
    rw [hsteps, Option.bind_eq_bind, Option.bind_some]

lemma skipSpace?_skipSpace? (h : rest <:+ text) :
    ∃ c, (before text rest).skipSpace? = some c ∧ c.skipSpace? = some c := by
  refine ⟨before text (trimStart rest), skipSpace?_before h, ?_⟩
  rw [skipSpace?_before ((trimStart_suffix rest).trans h), trimStart_trimStart]

lemma map_fst_eat? (c : Cursor) (r : Regex) : (c.eat? r).map Prod.fst = c.peek? r := by
  rw [eat?, Option.map_map]
  rfl

/-- After any steps that fit where they are taken and do not overflow, the cursor has not got stuck
and stands between two characters of the text. There every further step of this kind has its effect
on the rest: the cursor moves over what the step takes and is never taken back, and a step that
takes nothing leaves it as it is. White space is skipped once and for all, and eating finds what
peeking finds. If the position does overflow, the cursor is stuck or taken back. -/
theorem steps?_of_fits {steps : List Step} (hfits : (ofText text).Throughout o Fits steps)
    (hcounts : (ofText text).Throughout o Counts steps) :
    ∃ answers c consumed rest, (ofText text).steps? o steps = some (answers, c) ∧
      text = consumed ++ rest ∧ c.Divides consumed rest ∧ c.position ≤ utf8Size text ∧
      (∀ s : Step, s.Fits rest → s.Counts c.position →
        ∃ answer next taken left, c.step? o s = some (answer, next) ∧
          rest = taken ++ left ∧ s.Effect answer taken left ∧
          next.Divides (consumed ++ taken) left ∧ c.position ≤ next.position ∧
          (taken = [] → next = c)) ∧
      (∃ next, c.skipSpace? = some next ∧ next.skipSpace? = some next) ∧
      (∀ r, (c.eat? r).map Prod.fst = c.peek? r) ∧
      ∀ n : UInt64, UInt64.size ≤ c.position + n.toNat →
        c.step? .trap (.advance n) = none ∧
          ∃ next, c.step? .wrap (.advance n) = some (.moved, next) ∧
            next.position < c.position := by
  rw [← before_self] at hfits hcounts ⊢
  obtain ⟨answers, rest, hsteps, hrest⟩ := steps?_before (List.suffix_refl text) hfits hcounts
  obtain ⟨consumed, htext⟩ := id hrest
  have hdivides := divides_before htext.symm
  refine ⟨answers, before text rest, consumed, rest, hsteps, htext.symm, hdivides,
    (before text rest).position_le, fun s hs hcount => ?_, skipSpace?_skipSpace? hrest,
    map_fst_eat? _, fun n hn => ⟨?_, ?_⟩⟩
  · obtain ⟨answer, taken, left, hstep, rfl, heffect⟩ := step?_before hrest hs hcount
    have hnext : (before text left).Divides (consumed ++ taken) left :=
      divides_before (by rw [List.append_assoc, htext])
    refine ⟨answer, before text left, taken, left, hstep, rfl, heffect, hnext, ?_, ?_⟩
    · rw [hdivides.position_eq, hnext.position_eq, utf8Size_append]
      exact Nat.le_add_right _ _
    · rintro rfl
      rfl
  · rw [step?, advance?_trap (Nat.not_lt_of_le hn), Option.map_none]
  · obtain ⟨next, hnext, hlt⟩ := advance?_wrap (Nat.not_lt_of_le hn)
    exact ⟨next, by rw [step?, hnext, Option.map_some], hlt⟩

/-- A cursor is sent over a character of two bytes, and beyond the end after the white space. -/
theorem steps?_of_fits_accent :
    (ofText ['é', ' ', 'x']).Throughout .wrap Fits [.advance 2, .skipSpace, .advance 9] ∧
      (ofText ['é', ' ', 'x']).Throughout .wrap Counts [.advance 2, .skipSpace, .advance 9] ∧
      ∃ answers c consumed rest, c.position = 4 ∧
        (ofText ['é', ' ', 'x']).steps? .wrap [.advance 2, .skipSpace, .advance 9] =
          some (answers, c) ∧
        ['é', ' ', 'x'] = consumed ++ rest ∧ c.Divides consumed rest := by
  have hfits :
      (ofText ['é', ' ', 'x']).Throughout .wrap Fits [.advance 2, .skipSpace, .advance 9] := by
    decide
  have hcounts :
      (ofText ['é', ' ', 'x']).Throughout .wrap Counts [.advance 2, .skipSpace, .advance 9] := by
    decide
  obtain ⟨answers, c, consumed, rest, hsteps, htext, hdivides, -⟩ := steps?_of_fits hfits hcounts
  refine ⟨hfits, hcounts, answers, c, consumed, rest, ?_, hsteps, htext, hdivides⟩
  cases hsteps
  rfl

/-- Whatever the machine does with a sum that is too large, to fit is not enough: a cursor behind
the first character is stuck or taken back when it is sent on by the largest of all words. -/
theorem not_exists_forall_position_le :
    ¬∃ o : Overflow, ∀ (text : List Char) (steps : List Step) (s : Step),
      (ofText text).Throughout o Fits (steps ++ [s]) →
      ∃ answers c answer next, (ofText text).steps? o steps = some (answers, c) ∧
        c.step? o s = some (answer, next) ∧ c.position ≤ next.position := by
  rintro ⟨o, h⟩
  have hfits :
      (ofText ['a', 'b']).Throughout o Fits [.advance 1, .advance 18446744073709551615] := by
    cases o <;> decide
  obtain ⟨answers, c, answer, next, hsteps, hstep, hle⟩ := h _ [.advance 1] _ hfits
  cases o with
  | trap =>
    cases hsteps
    cases hstep
  | wrap =>
    cases hsteps
    cases hstep
    exact absurd hle (by decide)

end Steps

end Cursor

end FilterQuery
