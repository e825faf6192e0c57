import FilterQuery.Pattern.Matcher
import FilterQuery.Query.Reading
import Mathlib.Tactic.Lemma
import Mathlib.Tactic.SplitIfs

/-!
# How the patterns of wildcards are read

The source of a wildcard is read as a pattern, and the pattern is spelled anew and read as a regular
expression. Both readers take one item for each character of the wildcard: nothing that a character
is written as can be taken for a quantifier of the item before it.
-/

namespace FilterQuery

open Literal

/-- The first character of a text neither belongs to the item before it nor opens or closes a
part. -/
def StartsItem (cs : List Char) : Prop :=
  ∀ c ∈ cs.head?, "()|?*+\x7b".toList.contains c = false

section Items

variable {c d : Char} {rest : List Char}

lemma StartsItem.ne (h : StartsItem (c :: rest)) (hd : "()|?*+\x7b".toList.contains d = true) :
    c ≠ d := by
  rintro rfl
  rw [h c rfl] at hd
  cases hd

lemma ne_of_isSpecial (hc : isSpecial c = false) (hd : isSpecial d = true) : c ≠ d := by
  rintro rfl
  rw [hc] at hd
  cases hd

lemma startsItem_cons (h : c ∉ "()|?*+\x7b".toList) : StartsItem (c :: rest) := by
  rintro d ⟨⟩
  rwa [← Bool.not_eq_true, List.contains_iff_mem]

/-- A character that is neither special nor a star starts an item by itself. -/
lemma startsItem_of_plain (hstar : c ≠ '*') (hc : isSpecial c = false) :
    StartsItem (c :: rest) := by
  have hmarks : ∀ d ∈ "()|?*+\x7b".toList, (d == '*' || isSpecial d) = true :=
    List.all_eq_true.mp (by decide)
  refine startsItem_cons fun hmem => ?_
  have hmark := hmarks c hmem
  rw [hc, Bool.or_false, beq_iff_eq] at hmark
  exact hstar hmark

lemma startsItem_wildcardChar (c : Char) (rest : List Char) :
    StartsItem (wildcardChar c ++ rest) := by
  unfold wildcardChar
  split_ifs with hstar hspecial
  · exact startsItem_cons (by decide)
  · exact startsItem_cons (by decide)
  · exact startsItem_of_plain hstar (Bool.eq_false_iff.mpr hspecial)

lemma wildcardChar_ne_nil (c : Char) : wildcardChar c ≠ [] := by
  unfold wildcardChar
  split_ifs <;> exact List.cons_ne_nil _ _

lemma length_le_flatMap_wildcardChar (t : List Char) :
    t.length ≤ (t.flatMap wildcardChar).length := by
  induction t with
  | nil => exact Nat.le_refl 0
  | cons c t ih =>
    have hpos := List.length_pos_iff.mpr (wildcardChar_ne_nil c)
    rw [List.flatMap_cons, List.length_append, List.length_cons]
    omega

lemma startsItem_flatMap {f : Char → List Char} (hf : ∀ c rest, StartsItem (f c ++ rest))
    (t : List Char) : StartsItem (t.flatMap f ++ ['$']) := by
  cases t with
  | nil => exact startsItem_cons (by decide)
  | cons c t =>
    rw [List.flatMap_cons, List.append_assoc]
    exact hf c _

lemma startsItem_source (t : List Char) : StartsItem (t.flatMap wildcardChar ++ ['$']) :=
  startsItem_flatMap startsItem_wildcardChar t

end Items

namespace Pattern

/-- What a character of a wildcard is read as, after a number of repetitions. -/
def wildcardExpr (loops : Nat) (c : Char) : Expr :=
  if c = '*' then .repeated loops (.any false) 0 none true else .literal c false

/-- The items of a wildcard's pattern behind its start. -/
def wildcardItems : Nat → List Char → List Expr
  | _, [] => [.assertion .textEnd]
  | loops, c :: t =>
    wildcardExpr loops c :: wildcardItems (if c = '*' then loops + 1 else loops) t

lemma isEmpty_wildcardExpr (loops : Nat) (c : Char) :
    (wildcardExpr loops c).isEmpty = false := by
  unfold wildcardExpr
  split_ifs <;> rfl

section Read

variable {size : Nat} {group : Reading → List Char → ReadResult} {st : Reading} {c : Char}
  {cs rest t : List Char}

lemma skip_cons (hc : c ≠ '(') : Modes.none.skip (c :: rest) = some (c :: rest) := by
  rw [Modes.skip, Modes.none]
  unfold skipFrom
  split <;> simp_all

lemma skip_startsItem (h : StartsItem cs) : Modes.none.skip cs = some cs := by
  cases cs with
  | nil => rfl
  | cons c rest => exact skip_cons (h.ne (by decide))

lemma readQuantifier_startsItem {m : Modes} (h : StartsItem cs) : readQuantifier m cs = none := by
  cases cs with
  | nil => rfl
  | cons c rest =>
    have hquestion := h.ne (d := '?') (by decide)
    have hstar := h.ne (d := '*') (by decide)
    have hplus := h.ne (d := '+') (by decide)
    have hbrace := h.ne (d := '\x7b') (by decide)
    unfold readQuantifier
    split <;> simp_all

/-- An atom that no quantifier follows is a piece by itself. -/
lemma readPiece_of_readAtom {e : Expr} (hmodes : st.modes = .none) (hrest : StartsItem rest)
    (hatom : readAtom size group st cs = some (e, st, rest)) :
    readPiece size group st cs = some (e, st, rest) := by
  simp [readPiece, hatom, hmodes, skip_startsItem hrest, readQuantifier_startsItem hrest]

/-- A repetition prefers more rounds unless a mark follows its quantifier. -/
lemma quantify_startsItem {e : Expr} {least : Nat} {most : Option Nat} (hmodes : st.modes = .none)
    (he : e.isRepeatable = true) (hcs : StartsItem cs) :
    quantify st e least most cs =
      some (.repeated st.loops e least most true, { st with loops := st.loops + 1 }, cs) := by
  rw [quantify, he, hmodes, skip_startsItem hcs]
  cases cs with
  | nil => rfl
  | cons c rest =>
    have hquestion := hcs.ne (d := '?') (by decide)
    have hplus := hcs.ne (d := '+') (by decide)
    simp [hquestion, hplus, Modes.none]

lemma readPiece_star (hmodes : st.modes = .none) (hrest : StartsItem rest) :
    readPiece size group st ('.' :: '*' :: rest) =
      some (.repeated st.loops (.any false) 0 none true, { st with loops := st.loops + 1 },
        rest) := by
  have hatom : readAtom size group st ('.' :: '*' :: rest) =
      some (.any false, st, '*' :: rest) := by
    rw [readAtom, hmodes, skip_cons (by decide)]
    rfl
  simp only [readPiece, hatom, hmodes, Option.bind_eq_bind, Option.bind_some,
    skip_cons (c := '*') (by decide), readQuantifier]
  rw [quantify_startsItem hmodes rfl hrest, hmodes]

/-- A special character stands for itself behind a backslash. -/
lemma readEscapedAtom_special (h : isSpecial c = true) :
    readEscapedAtom size st (c :: rest) = some (.literal c false, st, rest) := by
  simp [isSpecial] at h
  rcases h with h | h | h | h | h | h | h | h | h | h | h | h | h | h | h | h | h
  all_goals
    subst h
    rfl

lemma readPiece_special (hmodes : st.modes = .none) (hrest : StartsItem rest)
    (h : isSpecial c = true) :
    readPiece size group st ('\\' :: c :: rest) = some (.literal c false, st, rest) := by
  refine readPiece_of_readAtom hmodes hrest ?_
  rw [readAtom, hmodes, skip_cons (by decide)]
  exact readEscapedAtom_special h

lemma readPiece_plain (hmodes : st.modes = .none) (hrest : StartsItem rest) (hstar : c ≠ '*')
    (h : isSpecial c = false) :
    readPiece size group st (c :: rest) = some (.literal c false, st, rest) := by
  have hne {d : Char} := ne_of_isSpecial (d := d) h
  refine readPiece_of_readAtom hmodes hrest ?_
  rw [readAtom, hmodes, skip_cons (hne (by decide))]
  simp only [Option.bind_eq_bind, Option.bind_some]
  split
  all_goals first | rfl | exact absurd rfl hstar | exact absurd rfl (hne (by decide))

lemma readPiece_wildcardChar (size : Nat) (group : Reading → List Char → ReadResult) (c : Char)
    (hmodes : st.modes = .none) (hrest : StartsItem rest) :
    readPiece size group st (wildcardChar c ++ rest) =
      some (wildcardExpr st.loops c,
        { st with loops := if c = '*' then st.loops + 1 else st.loops }, rest) := by
  unfold wildcardChar wildcardExpr
  split_ifs with hstar hspecial
  · exact readPiece_star hmodes hrest
  · exact readPiece_special hmodes hrest hspecial
  · exact readPiece_plain hmodes hrest hstar (Bool.eq_false_iff.mpr hspecial)

lemma readItems_of_readPiece {e : Expr} {es : List Expr} {st₁ st₂ : Reading} {after : List Char}
    {fuel : Nat} (hne : cs ≠ []) (hcs : StartsItem cs) (he : e.isEmpty = false)
    (hpiece : readPiece size group st cs = some (e, st₁, rest))
    (hitems : readItems size group fuel st₁ rest = some (es, st₂, after)) :
    readItems size group (fuel + 1) st cs = some (e :: es, st₂, after) := by
  obtain ⟨c, cs, rfl⟩ := List.exists_cons_of_ne_nil hne
  have hend : ¬(c = '|' ∨ c = ')') :=
    fun h => h.elim (hcs.ne (by decide)) (hcs.ne (by decide))
  simp [readItems, hend, hpiece, hitems, he]

/-- By induction on the wildcard, with any number of repetitions before it. -/
lemma readItems_source {fuel : Nat} (st : Reading) (hmodes : st.modes = .none)
    (hfuel : t.length + 2 ≤ fuel) :
    ∃ n, readItems size group fuel st (t.flatMap wildcardChar ++ ['$']) =
      some (wildcardItems st.loops t, { st with loops := n }, []) := by
  induction t generalizing fuel st with
  | nil =>
    obtain ⟨fuel, rfl⟩ := Nat.exists_eq_add_of_le' hfuel
    have hend : StartsItem [] := nofun
    refine ⟨st.loops, readItems_of_readPiece nofun (startsItem_source []) rfl
      (readPiece_of_readAtom hmodes hend ?_) rfl⟩
    rw [readAtom, hmodes, skip_startsItem (startsItem_source [])]
    rfl
  | cons c t ih =>
    obtain ⟨fuel, rfl⟩ := Nat.exists_eq_add_of_le' (Nat.le_trans (Nat.le_add_left 1 _) hfuel)
    obtain ⟨n, hitems⟩ := ih { st with loops := if c = '*' then st.loops + 1 else st.loops } hmodes
      (Nat.le_of_succ_le_succ hfuel)
    have hpiece := readPiece_wildcardChar size group c hmodes (startsItem_source t)
    rw [List.flatMap_cons, List.append_assoc]
    exact ⟨n, readItems_of_readPiece
      (List.append_ne_nil_of_left_ne_nil (wildcardChar_ne_nil c) _)
      (startsItem_wildcardChar c _) (isEmpty_wildcardExpr _ c) hpiece hitems⟩

lemma length_wildcardSource (t : List Char) : t.length + 2 ≤ (wildcardSource t).length := by
  have hlength := length_le_flatMap_wildcardChar t
  simp only [wildcardSource, List.length_append, List.length_cons, List.length_nil]
  omega

/-- A wildcard is read as a sequence between the start and the end of a text. -/
lemma readBranches_wildcardSource (size : Nat) (group : Reading → List Char → ReadResult)
    {fuel : Nat} {alone : Bool} (st : Reading) (hmodes : st.modes = .none)
    (hnumber : st.byNumber = false) :
    ∃ n, readBranches size group (fuel + 1) alone st (wildcardSource t) =
      some ([.seq (.assertion .textStart :: wildcardItems st.loops t)], { st with loops := n },
        []) := by
  have hstart : readPiece size group st (wildcardSource t) =
      some (.assertion .textStart, st, t.flatMap wildcardChar ++ ['$']) := by
    refine readPiece_of_readAtom hmodes (startsItem_source t) ?_
    rw [wildcardSource, List.cons_append, readAtom, hmodes, skip_cons (by decide)]
    rfl
  have hhead : StartsItem (wildcardSource t) := by
    rintro c ⟨⟩
    rfl
  obtain ⟨n, hitems⟩ := readItems_source st hmodes (length_wildcardSource t)
  have hread := readItems_of_readPiece (by simp [wildcardSource]) hhead rfl hstart hitems
  have hseq : Expr.ofItems (.assertion .textStart :: wildcardItems st.loops t) =
      .seq (.assertion .textStart :: wildcardItems st.loops t) := by
    cases t <;> rfl
  have hskip : Modes.none.skip [] = some [] := rfl
  refine ⟨n, ?_⟩
  rw [readBranches, hread]
  simp [hseq, hmodes, hnumber, hskip]

theorem read?_wildcardSource (t : List Char) :
    ∃ groups loops, read? (wildcardSource t) =
      some (.seq (.assertion .textStart :: wildcardItems 0 t), groups, loops) := by
  obtain ⟨n, hbranches⟩ := readBranches_wildcardSource (Text.utf8Size (wildcardSource t))
    (readGroup _ (readExpr _ 62)) ⟨.none, 0, 0, [], false⟩ rfl rfl
  refine ⟨0, n, ?_⟩
  rw [read?, show maxDepth = 62 + 1 from rfl, readExpr, hbranches]
  rfl

end Read

/-! ### The spelling -/

/-- What a character of a wildcard is spelled as. -/
def spellWildcardChar (c : Char) : List Char :=
  if c = '*' then ['.', '*'] else spellChar c

lemma spell_wildcardExpr (loops : Nat) (c : Char) :
    (wildcardExpr loops c).spell 2 = spellWildcardChar c := by
  unfold wildcardExpr spellWildcardChar
  split_ifs <;> rfl

lemma spellItems_wildcardItems (loops : Nat) (t : List Char) :
    Expr.spellItems (wildcardItems loops t) = t.flatMap spellWildcardChar ++ ['$'] := by
  induction t generalizing loops with
  | nil => rfl
  | cons c t ih =>
    rw [wildcardItems, Expr.spellItems, spell_wildcardExpr, ih, List.flatMap_cons,
      List.append_assoc]

lemma isHard_wildcardExpr (loops : Nat) (c : Char) :
    (wildcardExpr loops c).shape.isHard = false := by
  unfold wildcardExpr
  split_ifs <;> rfl

lemma isHard_seqShape_wildcardItems (loops : Nat) (t : List Char) :
    (Expr.seqShape (wildcardItems loops t)).isHard = false := by
  induction t generalizing loops with
  | nil => rfl
  | cons c t ih =>
    rw [wildcardItems, Expr.seqShape, Shape.seq, isHard_wildcardExpr, ih]
    rfl

lemma startsItem_spellWildcardChar (c : Char) (rest : List Char) :
    StartsItem (spellWildcardChar c ++ rest) := by
  unfold spellWildcardChar spellChar
  split_ifs with hstar hmeta
  · exact startsItem_cons (by decide)
  · exact startsItem_cons (by decide)
  · have hmarks : ∀ d ∈ "()|?*+\x7b".toList, isMeta d = true :=
      List.all_eq_true.mp (by decide)
    exact startsItem_cons fun hmem => hmeta (hmarks c hmem)

lemma startsItem_spelled (t : List Char) :
    StartsItem (t.flatMap spellWildcardChar ++ ['$']) :=
  startsItem_flatMap startsItem_spellWildcardChar t

end Pattern

namespace Regex

/-- What a character of a wildcard is read as in the end. -/
def wildcardItem (c : Char) : Regex :=
  if c = '*' then repeated (set .inLine 0) 0 none true else set (.single c) 0

section Read

variable {group : Flags → Groups → List Char → ReadResult} {g : Groups} {items : List Regex}
  {r : Regex} {c : Char} {cs rest t : List Char} {fuel : Nat}

lemma readSequence_item (h : StartsItem (c :: cs))
    (hitem : readItem (.initial false) c cs = some (r, rest)) :
    readSequence group (fuel + 1) (.initial false) g items (c :: cs) =
      readSequence group fuel (.initial false) g (r :: items) rest := by
  have hne {d : Char} := h.ne (d := d)
  have hskip : (Flags.initial false).skip (c :: cs) = c :: cs := rfl
  rw [readSequence, hskip]
  dsimp only
  split
  all_goals first
    | exact absurd rfl (hne (by decide))
    | rw [hitem]; rfl

lemma repeatLast_startsItem {least : Nat} {most : Option Nat} (hr : r ≠ empty)
    (hcs : StartsItem cs) :
    repeatLast (.initial false) (r :: items) least most cs =
      some (repeated r least most true :: items, cs) := by
  cases cs with
  | nil => cases r <;> first | rfl | exact absurd rfl hr
  | cons c rest =>
    have hquestion := hcs.ne (d := '?') (by decide)
    cases r <;> first | exact absurd rfl hr | simp [repeatLast, hquestion, Flags.initial]

lemma readSequence_star (hrest : StartsItem rest) :
    readSequence group (fuel + 2) (.initial false) g items ('.' :: '*' :: rest) =
      readSequence group fuel (.initial false) g
        (repeated (set .inLine 0) 0 none true :: items) rest := by
  have hitem : readItem (.initial false) '.' ('*' :: rest) = some (set .inLine 0, '*' :: rest) :=
    rfl
  have hskip : (Flags.initial false).skip ('*' :: rest) = '*' :: rest := rfl
  rw [readSequence_item (startsItem_cons (by decide)) hitem, readSequence, hskip]
  simp [repeatLast_startsItem (r := set .inLine 0) nofun hrest]

lemma readItem_meta (h : Pattern.isMeta c = true) :
    readItem (.initial false) '\\' (c :: rest) = some (set (.single c) 0, rest) := by
  have hescape : readEscape (.initial false) (c :: rest) = some (.char c, rest) := by
    simp [Pattern.isMeta] at h
    rcases h with h | h | h | h | h | h | h | h | h | h | h | h | h | h | h
    all_goals
      subst h
      rfl
  rw [readItem, hescape]
  rfl

lemma readItem_plain (h : Pattern.isMeta c = false) :
    readItem (.initial false) c rest = some (set (.single c) 0, rest) := by
  have hne {d : Char} (hd : Pattern.isMeta d = true) : c ≠ d := by
    rintro rfl
    rw [h] at hd
    cases hd
  unfold readItem
  split
  all_goals first | rfl | exact absurd rfl (hne (by decide))

/-- However a character is spelled, it is read as an item of its own. -/
lemma readSequence_spellWildcardChar (group : Flags → Groups → List Char → ReadResult)
    (g : Groups) (items : List Regex) (c : Char) (hrest : StartsItem rest) :
    ∃ n ≤ (Pattern.spellWildcardChar c).length, ∀ fuel,
      readSequence group (fuel + n) (.initial false) g items
          (Pattern.spellWildcardChar c ++ rest) =
        readSequence group fuel (.initial false) g (wildcardItem c :: items) rest := by
  have hstart := Pattern.startsItem_spellWildcardChar c rest
  unfold wildcardItem Pattern.spellWildcardChar Pattern.spellChar at *
  split_ifs at hstart ⊢ with hstar hmeta
  · exact ⟨2, Nat.le_refl 2, fun _ => readSequence_star hrest⟩
  · exact ⟨1, Nat.le_succ 1, fun _ => readSequence_item hstart (readItem_meta hmeta)⟩
  · exact ⟨1, Nat.le_refl 1, fun _ =>
      readSequence_item hstart (readItem_plain (Bool.eq_false_iff.mpr hmeta))⟩

lemma readSequence_spelled (hfuel : (t.flatMap Pattern.spellWildcardChar).length + 2 ≤ fuel) :
    readSequence group fuel (.initial false) g items
        (t.flatMap Pattern.spellWildcardChar ++ ['$']) =
      some (sequence (items.reverse ++ (t.map wildcardItem ++ [assertion .textEnd])),
        .initial false, g, []) := by
  induction t generalizing fuel items with
  | nil =>
    obtain ⟨fuel, rfl⟩ : ∃ n, fuel = n + 2 := Nat.exists_eq_add_of_le' hfuel
    have hitem : readItem (.initial false) '$' [] = some (assertion .textEnd, []) := rfl
    rw [List.flatMap_nil, List.nil_append, readSequence_item (startsItem_cons (by decide)) hitem,
      readSequence]
    simp [Flags.skip, Flags.initial]
  | cons c t ih =>
    rw [List.flatMap_cons, List.length_append] at hfuel
    obtain ⟨n, hn, hread⟩ := readSequence_spellWildcardChar group g items c
      (Pattern.startsItem_spelled t)
    obtain ⟨fuel, rfl⟩ := Nat.exists_eq_add_of_le' (Nat.le_trans hn (by omega) : n ≤ fuel)
    rw [List.flatMap_cons, List.append_assoc, hread, ih (by omega), List.reverse_cons,
      List.append_assoc]
    rfl

end Read

/-! ### Nesting -/

lemma nesting_sequence_le {n : Nat} {items : List Regex} (h : ∀ r ∈ items, r.nesting ≤ n) :
    (sequence items).nesting ≤ n + 1 := by
  induction items with
  | nil => exact Nat.zero_le _
  | cons r items ih =>
    have hr := h r List.mem_cons_self
    have hitems := ih fun s hs => h s (List.mem_cons_of_mem r hs)
    match items with
    | [] => exact Nat.le_succ_of_le hr
    | [s] =>
      have hs := h s (List.mem_cons_of_mem r List.mem_cons_self)
      simp only [sequence, nesting] at hitems ⊢
      split <;> omega
    | s :: s' :: rest =>
      simp only [sequence, nesting] at hitems ⊢
      omega

/-- The regular expression of a wildcard: its characters between the start and the end. -/
def wildcard (t : List Char) : Regex :=
  sequence (assertion .textStart :: (t.map wildcardItem ++ [assertion .textEnd]))

lemma nesting_wildcard_le (t : List Char) : (wildcard t).nesting ≤ 2 := by
  refine nesting_sequence_le fun r hr => ?_
  simp only [List.mem_cons, List.mem_append, List.mem_map, List.not_mem_nil, or_false] at hr
  rcases hr with rfl | ⟨c, -, rfl⟩ | rfl
  · exact Nat.zero_le 1
  · unfold wildcardItem
    split_ifs
    · exact Nat.le_refl 1
    · exact Nat.zero_le 1
  · exact Nat.zero_le 1

theorem read?_spelled (t : List Char) :
    read? false ('^' :: (t.flatMap Pattern.spellWildcardChar ++ ['$'])) = some (wildcard t) := by
  have hstart : readItem (.initial false) '^' (t.flatMap Pattern.spellWildcardChar ++ ['$']) =
      some (assertion .textStart, t.flatMap Pattern.spellWildcardChar ++ ['$']) := rfl
  have hfuel : (t.flatMap Pattern.spellWildcardChar).length + 2 ≤
      ('^' :: (t.flatMap Pattern.spellWildcardChar ++ ['$'])).length := by
    simp
  have hnesting : (wildcard t).nesting ≤ maxNesting :=
    Nat.le_trans (nesting_wildcard_le t) (by decide)
  rw [read?, readExpr, readAlternatives, readSequence_item (startsItem_cons (by decide)) hstart,
    readSequence_spelled hfuel]
  exact if_pos hnesting

end Regex

/-- Every wildcard is compiled to a regular expression. -/
theorem Pattern.Matcher.ofSource?_wildcardSource (t : List Char) :
    ofSource? false (wildcardSource t) = some (.regular (.wildcard t)) := by
  obtain ⟨groups, loops, hread⟩ := Pattern.read?_wildcardSource t
  have hshape : (Expr.seq (.assertion .textStart :: wildcardItems 0 t)).shape.isHard = false :=
    isHard_seqShape_wildcardItems 0 t
  have hspell : (Expr.seq (.assertion .textStart :: wildcardItems 0 t)).spell 0 =
      '^' :: (t.flatMap spellWildcardChar ++ ['$']) :=
    congrArg ('^' :: ·) (spellItems_wildcardItems 0 t)
  rw [ofSource?, hread]
  change ofExpr? false (.seq (.assertion .textStart :: wildcardItems 0 t)) groups loops = _
  rw [ofExpr?, hshape, hspell, Regex.read?_spelled]
  rfl

end FilterQuery
