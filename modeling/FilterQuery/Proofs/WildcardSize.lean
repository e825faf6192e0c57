import FilterQuery.Proofs.WildcardReading
import FilterQuery.Regex.Size
import Mathlib.Data.List.Forall2

/-!
# Wildcards that are too big

The automata of a pattern have to fit into a fixed number of bytes, and every byte of a text that
the pattern asks for is a state of its own. A wildcard with too many characters in front of its first
star is therefore no pattern, although it can be read as one. The normal form of a sequence says
which texts its automata are made from.
-/

namespace FilterQuery.Regex

namespace Normal

/-! ### Normal forms of sequences -/

variable {r : Normal} {rs : List Normal} {cs : List Char}

/-- The expression is neither empty nor put together from others in a row or as alternatives. -/
def IsItem (r : Normal) : Prop :=
  r.items = [r] ∧ r.branches = [r]

lemma isItem_literal (cs : List Char) : (literal cs).IsItem := ⟨rfl, rfl⟩

lemma choice_of_branches (h : r.branches = [r]) : choice [r] = r := by
  have hfuel : choice [r] = choiceWithin (r.size + 1) [r] := by
    rw [choice, List.foldl_cons, List.foldl_nil, Nat.add_comm]
  have hbranches : [r].flatMap branches = [r] := by
    rw [List.flatMap_singleton, h]
  rw [hfuel, choiceWithin, hbranches]

lemma length_joinLiterals_le (rs : List Normal) : (joinLiterals rs).length ≤ rs.length := by
  fun_induction joinLiterals rs with
  | case1 => exact Nat.le_refl 0
  | case2 cs rest ds tail heq ih =>
    rw [heq] at ih
    exact Nat.le_succ_of_le ih
  | case3 cs rest _ ih => exact Nat.succ_le_succ ih
  | case4 r rest _ ih => exact Nat.succ_le_succ ih

/-- Texts that have been joined are not joined again. -/
lemma joinLiterals_joinLiterals (rs : List Normal) :
    joinLiterals (joinLiterals rs) = joinLiterals rs := by
  fun_induction joinLiterals rs with
  | case1 => rfl
  | case2 cs rest ds tail heq ih =>
    rw [heq, joinLiterals] at ih
    have hlength := length_joinLiterals_le tail
    rw [joinLiterals]
    split at ih
    · rename_i es rest' htail
      -- The rest would be longer than it is without its joined texts.
      rw [htail, (List.cons.inj ih).2, List.length_cons] at hlength
      exact absurd hlength (Nat.not_succ_le_self _)
    · rw [(List.cons.inj ih).2]
  | case3 cs rest h ih =>
    rw [joinLiterals, ih]
    split
    · rename_i htail
      exact absurd htail (h _ _)
    · rfl
  | case4 r rest h ih => rw [joinLiterals, ih]; exact h

lemma joinLiterals_cons_joinLiterals (r : Normal) (rs : List Normal) :
    joinLiterals (r :: joinLiterals rs) = joinLiterals (r :: rs) := by
  cases r with
  | literal cs => rw [joinLiterals, joinLiterals_joinLiterals, joinLiterals]
  | _ => exact congrArg (_ :: ·) (joinLiterals_joinLiterals rs)

lemma isItem_of_mem_joinLiterals (h : ∀ r ∈ rs, r.IsItem) : ∀ r ∈ joinLiterals rs, r.IsItem := by
  fun_induction joinLiterals rs with
  | case1 => exact h
  | case2 cs rest ds tail heq ih =>
    intro r hr
    have htail := ih fun s hs => h s (List.mem_cons_of_mem _ hs)
    rw [heq] at htail
    obtain rfl | hr := List.mem_cons.mp hr
    · exact isItem_literal _
    · exact htail r (List.mem_cons_of_mem _ hr)
  | case3 cs rest _ ih =>
    intro r hr
    obtain rfl | hr := List.mem_cons.mp hr
    · exact isItem_literal _
    · exact ih (fun s hs => h s (List.mem_cons_of_mem _ hs)) r hr
  | case4 r rest _ ih =>
    intro s hs
    obtain rfl | hs := List.mem_cons.mp hs
    · exact h _ List.mem_cons_self
    · exact ih (fun s hs => h s (List.mem_cons_of_mem _ hs)) s hs

lemma items_ofItems (h : ∀ r ∈ rs, r.IsItem) : (ofItems rs).items = rs := by
  induction rs with
  | nil => rfl
  | cons r rest ih =>
    have hrest := ih fun s hs => h s (List.mem_cons_of_mem r hs)
    cases rest with
    | nil => exact (h r List.mem_cons_self).1
    | cons s rest => exact congrArg (r :: ·) hrest

lemma branches_ofItems (h : ∀ r ∈ rs, r.IsItem) : (ofItems rs).branches = [ofItems rs] := by
  cases rs with
  | nil => rfl
  | cons r rest =>
    cases rest with
    | nil => exact (h r List.mem_cons_self).2
    | cons s rest => rfl

end Normal

open FilterQuery.Regex.Normal

/-- The expression has one alternative, whose normal form is an item. -/
def HasItem (r : Regex) (n : Normal) : Prop :=
  normalBranches r = [n] ∧ n.IsItem

lemma isItem_of_hasItem {rs : List Regex} {ns : List Normal} (h : List.Forall₂ HasItem rs ns) :
    ∀ n ∈ ns, n.IsItem := by
  induction h with
  | nil => exact fun n hn => nomatch hn
  | cons hr _ ih => exact List.forall_mem_cons.mpr ⟨hr.2, ih⟩

/-- The normal form of a sequence, by those of its parts. -/
theorem normal_sequence {rs : List Regex} {ns : List Normal} (h : List.Forall₂ HasItem rs ns) :
    (sequence rs).normal = ofItems (joinLiterals ns) := by
  induction h with
  | nil => rfl
  | @cons r n rs ns hr hrest ih =>
    have hitems := isItem_of_hasItem (.cons hr hrest)
    obtain ⟨hbranches, hitem⟩ := hr
    cases hrest with
    | nil =>
      have hjoin : joinLiterals [n] = [n] := by
        cases n <;> rfl
      change choice (normalBranches r) = ofItems (joinLiterals [n])
      rw [hbranches, choice_of_branches hitem.2, hjoin]
      rfl
    | @cons s m rs ns hs htail =>
      have htail := items_ofItems (isItem_of_mem_joinLiterals (isItem_of_hasItem (.cons hs htail)))
      have hseq : (sequence (r :: s :: rs)).normal =
          choice [ofItems (joinLiterals ((choice (normalBranches r)).items ++
            ((sequence (s :: rs)).normal.items ++ [])))] := rfl
      rw [hseq, hbranches, choice_of_branches hitem.2, hitem.1, ih, htail, List.append_nil,
        List.singleton_append, joinLiterals_cons_joinLiterals]
      exact choice_of_branches (branches_ofItems (isItem_of_mem_joinLiterals hitems))

/-! ### Wildcards -/

/-- The normal form of a character of a wildcard. -/
def normalItem (c : Char) : Normal :=
  if c = '*' then .repeated (.set .inLine) 0 none true else .literal [c]

lemma ofSet_single (c : Char) : ofSet (.single c) = .literal [c] := by
  have hsingle : (CharSet.single c).single? = some c := by
    have hvalid : c.toNat.isValidChar ∧ c.toNat = c.toNat := ⟨c.valid, rfl⟩
    rw [CharSet.single?, CharSet.single]
    dsimp only
    rw [dif_pos hvalid]
    rfl
  rw [ofSet, hsingle]

lemma hasItem_wildcardItem (c : Char) : HasItem (wildcardItem c) (normalItem c) := by
  unfold wildcardItem normalItem
  split_ifs with hstar
  · exact ⟨rfl, rfl, rfl⟩
  · exact ⟨congrArg (fun r => [r]) (ofSet_single c), isItem_literal [c]⟩

lemma hasItem_assertion (a : Assertion) : HasItem (assertion a) (.assertion a) :=
  ⟨rfl, rfl, rfl⟩

/-- The characters between two stars, and those before the first and after the last star, become
one text each. -/
theorem normal_wildcard (t : List Char) :
    (wildcard t).normal =
      ofItems (.assertion .textStart :: joinLiterals (t.map normalItem ++ [.assertion .textEnd])) := by
  have hitems : List.Forall₂ HasItem (t.map wildcardItem ++ [assertion .textEnd])
      (t.map normalItem ++ [.assertion .textEnd]) := by
    induction t with
    | nil => exact .cons (hasItem_assertion _) .nil
    | cons c t ih => exact .cons (hasItem_wildcardItem c) ih
  exact normal_sequence (.cons (hasItem_assertion _) hitems)

/-- The characters before the first star are one text. -/
lemma joinLiterals_of_star {cs : List Char} (hcs : cs ≠ []) (hstar : '*' ∉ cs)
    (rest : List Normal) :
    joinLiterals (cs.map normalItem ++ normalItem '*' :: rest) =
      .literal cs :: normalItem '*' :: joinLiterals rest := by
  induction cs with
  | nil => exact absurd rfl hcs
  | cons c cs ih =>
    rw [List.mem_cons, not_or] at hstar
    have hc : normalItem c = .literal [c] := if_neg (Ne.symm hstar.1)
    rw [List.map_cons, hc, List.cons_append, joinLiterals]
    cases cs with
    | nil => rfl
    | cons d cs =>
      rw [ih (List.cons_ne_nil d cs) hstar.2]
      rfl

/-! ### The room for texts -/

namespace Automaton

lemma length_le_length_encode (cs : List Char) : cs.length ≤ (encode cs).length := by
  induction cs with
  | nil => exact Nat.le_refl 0
  | cons c cs ih =>
    have hpos : 1 ≤ (encodeUtf8 c.toNat).length := by
      unfold encodeUtf8
      split_ifs <;> exact Nat.succ_pos _
    rw [encode, List.flatMap_cons, List.length_append, List.length_cons, Nat.add_comm]
    exact Nat.add_le_add hpos ih

/-- Every byte of a text is a state, so a long text does not fit behind any other state. -/
lemma grow_eq_none {n : Nat} (m : Automaton) (h : maxBytes < 32 * n) : grow n 0 m = none := by
  rw [grow, if_neg]
  rw [bytes, Nat.not_le]
  dsimp only
  omega

/-- There is no automaton for an expression that starts with a text that is too long. -/
lemma ofNormal?_eq_none {cs : List Char} (r : Normal) (h : maxBytes < 32 * cs.length) :
    ofNormal? false (.seq (.assertion .textStart) (.seq (.literal cs) r)) = none := by
  have hliteral (m : Automaton) : grow (encode cs).length 0 m = none :=
    grow_eq_none m (Nat.lt_of_lt_of_le h (Nat.mul_le_mul_left 32 (length_le_length_encode cs)))
  have hparts : ofNormal? false (.seq (.assertion .textStart) (.seq (.literal cs) r)) =
      (grow 1 0 ⟨0, 0⟩).bind fun m => (grow 1 0 m).bind fun m => ((grow 1 0 m).bind fun m =>
        (grow (encode cs).length 0 m).bind
          (addNormal.addChoice false r (addNormal false r))).bind (grow 2 0) := rfl
  simp only [hparts, hliteral, Option.bind_none, Option.bind_fun_none]

end Automaton

/-- A wildcard is too big if the characters before its first star are too many. -/
theorem fits_wildcard_of_star {cs : List Char} (rest : List Char) (hstar : '*' ∉ cs)
    (h : Automaton.maxBytes < 32 * cs.length) : (wildcard (cs ++ '*' :: rest)).fits = false := by
  have hcs : cs ≠ [] := by
    rintro rfl
    exact absurd h (Nat.not_lt_zero _)
  have hnormal : ∃ r, (wildcard (cs ++ '*' :: rest)).normal =
      .seq (.assertion .textStart) (.seq (.literal cs) r) := by
    rw [normal_wildcard, List.map_append, List.append_assoc, List.map_cons, List.cons_append,
      joinLiterals_of_star hcs hstar]
    exact ⟨_, rfl⟩
  obtain ⟨r, hr⟩ := hnormal
  rw [fits, hr, Automaton.ofNormal?_eq_none r h]
  rfl

end FilterQuery.Regex
