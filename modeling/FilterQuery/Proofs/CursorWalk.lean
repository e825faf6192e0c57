import FilterQuery.Cursor
import FilterQuery.Proofs.Recognition

/-!
# The parser as a walk of a cursor

A byte cursor walks over a source as the parser reads it. A walk breaks off if the cursor is read
inside of a character, or if chains are nested deeper than is allowed; otherwise it gives a result
and the cursor in its new place. The walk of a call never breaks off if the source has at least as
many bytes as chains may be nested, and it agrees with the parser. Calls can be repeated: each of
them moves on or fails in the same way as all further ones.
-/

namespace FilterQuery

namespace Text

lemma afterBytes?_append (cs ds : List Char) : afterBytes? (utf8Size cs) (cs ++ ds) = some ds := by
  induction cs with
  | nil => simp [utf8Size, afterBytes?]
  | cons c cs ih =>
    obtain ⟨n, hn⟩ : ∃ n, c.utf8Size + utf8Size cs = n + 1 :=
      ⟨c.utf8Size + utf8Size cs - 1, by have := c.utf8Size_pos; omega⟩
    have hsize : n + 1 - c.utf8Size = utf8Size cs := by omega
    rw [utf8Size, hn, List.cons_append, afterBytes?, if_pos (by omega), hsize, ih]

lemma utf8Size_of_suffix {cs ds : List Char} (h : ds <:+ cs) :
    ∃ es, cs = es ++ ds ∧ utf8Size cs = utf8Size es + utf8Size ds := by
  obtain ⟨es, rfl⟩ := h
  exact ⟨es, rfl, utf8Size_append es ds⟩

lemma utf8Size_le_of_suffix {cs ds : List Char} (h : ds <:+ cs) : utf8Size ds ≤ utf8Size cs := by
  obtain ⟨es, -, hsize⟩ := utf8Size_of_suffix h
  omega

lemma eq_of_suffix_of_utf8Size {cs ds : List Char} (h : ds <:+ cs)
    (hsize : utf8Size cs ≤ utf8Size ds) : ds = cs := by
  obtain ⟨es, rfl, hes⟩ := utf8Size_of_suffix h
  cases es with
  | nil => rfl
  | cons c es =>
    have hpos := c.utf8Size_pos
    rw [utf8Size] at hes
    omega

lemma utf8Size_lt_of_suffix {cs ds : List Char} (h : ds <:+ cs) (hlt : ds.length < cs.length) :
    utf8Size ds < utf8Size cs := by
  by_contra hle
  have := congrArg List.length (eq_of_suffix_of_utf8Size h (Nat.le_of_not_lt hle))
  omega

end Text

open Text

namespace Cursor

/-- The cursor in front of the end `rest` of a text. -/
def before (text rest : List Char) : Cursor :=
  ⟨text, utf8Size text - utf8Size rest, Nat.sub_le _ _⟩

/-- Takes a token off the rest, and moves over it if there is one. -/
def take? {α : Type} (token? : List Char → Option (α × List Char)) (c : Cursor) :
    Option (Option α × Cursor) :=
  c.rest?.map fun rest =>
    match token? rest with
    | none => (none, c)
    | some (a, left) => (some a, c.moveOver (utf8Size rest - utf8Size left))

section Before

variable {text cs rest : List Char}

lemma before_self (text : List Char) : before text text = ofText text := by
  simp only [before, ofText, Nat.sub_self]

lemma rest?_before (h : cs <:+ text) : (before text cs).rest? = some cs := by
  obtain ⟨es, rfl, hsize⟩ := utf8Size_of_suffix h
  have hposition : utf8Size (es ++ cs) - utf8Size cs = utf8Size es := by omega
  unfold rest? before
  dsimp only
  rw [hposition, afterBytes?_append]

lemma moveOver_before (hcs : cs <:+ text) (h : rest <:+ cs) :
    (before text cs).moveOver (utf8Size cs - utf8Size rest) = before text rest := by
  have hle := utf8Size_le_of_suffix hcs
  have hrest := utf8Size_le_of_suffix h
  simp only [moveOver, moveTo, before, mk.injEq, true_and]
  omega

lemma moveOver_before_append (h : cs ++ rest <:+ text) :
    (before text (cs ++ rest)).moveOver (utf8Size cs) = before text rest := by
  have hmove := moveOver_before h (List.suffix_append cs rest)
  rwa [utf8Size_append, Nat.add_sub_cancel] at hmove

lemma isAtEnd_before (h : cs <:+ text) : (before text cs).isAtEnd = cs.isEmpty := by
  have hle := utf8Size_le_of_suffix h
  cases cs with
  | nil => simp [isAtEnd, before, utf8Size]
  | cons c cs =>
    have hpos : 0 < utf8Size (c :: cs) := Nat.add_pos_left c.utf8Size_pos _
    rw [isAtEnd, before, List.isEmpty_cons, decide_eq_false_iff_not]
    dsimp only
    omega

lemma skipSpace?_before (h : cs <:+ text) :
    (before text cs).skipSpace? = some (before text (trimStart cs)) := by
  have hsplit : cs.takeWhile Unicode.isSpace ++ trimStart cs = cs :=
    List.takeWhile_append_dropWhile
  rw [skipSpace?, rest?_before h, Option.map_some, Option.some.injEq]
  rw [← hsplit] at h
  have hmove := moveOver_before_append h
  rwa [hsplit] at hmove

lemma eatChar?_before_cons {c : Char} (h : c :: cs <:+ text) :
    (before text (c :: cs)).eatChar? c = some (true, before text cs) := by
  have hmove : (before text ([c] ++ cs)).moveOver (utf8Size [c]) = before text cs :=
    moveOver_before_append h
  change (before text (c :: cs)).moveOver c.utf8Size = _ at hmove
  rw [eatChar?, rest?_before h, Option.map_some, List.head?_cons, if_pos rfl, hmove]

lemma eatChar?_before_of_ne {c : Char} (h : cs <:+ text) (hc : cs.head? ≠ some c) :
    (before text cs).eatChar? c = some (false, before text cs) := by
  rw [eatChar?, rest?_before h, Option.map_some, if_neg hc]

section Take

variable {α : Type} {token? : List Char → Option (α × List Char)}

lemma take?_before_none (h : cs <:+ text) (hnone : token? cs = none) :
    (before text cs).take? token? = some (none, before text cs) := by
  simp only [take?, rest?_before h, Option.map_some, hnone]

lemma take?_before_some {a : α} (h : cs <:+ text) (hsome : token? cs = some (a, rest))
    (hrest : rest <:+ cs) : (before text cs).take? token? = some (some a, before text rest) := by
  simp only [take?, rest?_before h, Option.map_some, hsome, moveOver_before h hrest]

end Take

end Before

end Cursor

/-! ### Walks -/

/-- What is read from a cursor on, and where the cursor is then, unless the walk breaks off. -/
abbrev Walk : Type := Cursor → Option (Except ParseError Query × Cursor)

namespace Walk

open Cursor

/-- The result in front of the cursor, where a fault is noticed. -/
def settle (result : Except Fault Query) : Walk := fun c =>
  c.rest?.map fun rest => (result.mapError (.ofFault rest), c)

/-- The walk after a name. -/
def comparison (name : List Char) : Walk := fun c => do
  let (found, next) ← c.take? Token.comparison?
  match found with
  | none => settle (Query.ofComparison name (.boolean true) none) c
  | some d =>
    match Token.comparator d.comparator, d.value.literal with
    | .error f, _ => settle (.error f) c
    | .ok _, .error (.invalidObjectId l e p) => some (.error (.invalidObjectId l e p), c)
    | .ok _, .error e => some (.error e, next)
    | .ok cmp, .ok value => settle (Query.ofComparison name value cmp) next

/-- The walk over a group, given the one over the chain in it. -/
def group (chain : Walk) : Walk := fun c => do
  let (opened, c) ← c.eatChar? '('
  if opened then
    let c ← c.skipSpace?
    let (result, c) ← chain c
    match result with
    | .error e => some (.error e, c)
    | .ok q =>
      let c ← c.skipSpace?
      let (closed, c) ← c.eatChar? ')'
      if closed then some (.ok q, c) else settle (.error .missingClose) c
  else settle (.error .missingOpen) c

/-- The walk over a part, given the one over the chain in a group. -/
def part (chain : Walk) : Walk := fun c => do
  let (name, next) ← c.take? Token.name?
  match name with
  | none => group chain next
  | some name => comparison name next

/-- The walk over a chain in which chains are nested at most `depth` deep, this one included. Chains
are nested in the groups of their parts and behind their connectives. -/
def chain : Nat → Walk
  | 0 => fun _ => none
  | depth + 1 => fun c => do
    let (result, c) ← part (chain depth) c
    match result with
    | .error e => some (.error e, c)
    | .ok left =>
      let (op, c) ← c.take? Token.keyword?
      match op with
      | none => some (.ok left, c)
      | some op =>
        let (right, c) ← chain depth c
        some (right.map (.join op left), c)

/-- The walk of a call of the parser. -/
def call (depth : Nat) : Walk := fun c => do
  let (result, c) ← group (chain depth) c
  match result with
  | .error e => some (.error e, c)
  | .ok q => if c.isAtEnd then some (.ok q, c) else settle (.error .unexpectedInput) c

/-- The walk gives the result that a reader gives, and takes the cursor where the reader stops. -/
def Follows (walk : Walk) (text cs : List Char) (outcome : Except ParseError Query × List Char) :
    Prop :=
  walk (before text cs) = some (outcome.1, before text outcome.2)

section Follows

variable {text cs : List Char}

lemma settle_before (h : cs <:+ text) (result : Except Fault Query) :
    Follows (settle result) text cs (result.mapError (.ofFault cs), cs) := by
  rw [Follows, settle, rest?_before h, Option.map_some]

lemma comparison_follows (name : List Char) (h : cs <:+ text) :
    Follows (comparison name) text cs (Query.readComparison name cs).toPair := by
  rw [Query.toPair_readComparison]
  unfold Follows comparison
  cases hc : Token.comparison? cs with
  | none =>
    simp only [take?_before_none h hc, Option.bind_eq_bind, Option.bind_some]
    exact settle_before h _
  | some pair =>
    obtain ⟨d, rest⟩ := pair
    have hrest := Token.suffix_of_comparison? hc
    simp only [take?_before_some h hc hrest, Option.bind_eq_bind, Option.bind_some]
    cases Token.comparator d.comparator with
    | error f => exact settle_before h _
    | ok cmp =>
      cases d.value.literal with
      | error e => cases e <;> rfl
      | ok value => exact settle_before (hrest.trans h) _

variable {chain' : Walk}

lemma group_follows (h : cs <:+ text)
    (hchain : ∀ ds, ds <:+ text → utf8Size ds < utf8Size cs →
      Follows chain' text ds (Query.readChain ds).toPair) :
    Follows (group chain') text cs (Query.readGroup cs).toPair := by
  unfold Follows group
  by_cases hopen : cs.head? = some '('
  · obtain ⟨tail, rfl⟩ := List.head?_eq_some_iff.mp hopen
    have htail : tail <:+ text := (List.suffix_cons '(' tail).trans h
    have htrim : trimStart tail <:+ text := (trimStart_suffix tail).trans htail
    have hsize : utf8Size (trimStart tail) < utf8Size ('(' :: tail) :=
      utf8Size_lt_of_suffix ((trimStart_suffix tail).trans (List.suffix_cons '(' tail))
        (Nat.lt_succ_of_le (trimStart_suffix tail).length_le)
    have hread := hchain _ htrim hsize
    have hsuffix := (Query.readChain (trimStart tail)).rest_suffix
    change (Query.readChain (trimStart tail)).toPair.2 <:+ _ at hsuffix
    rw [Query.toPair_readGroup_cons]
    generalize (Query.readChain (trimStart tail)).toPair = outcome at hread hsuffix
    obtain ⟨result, rest⟩ := outcome
    simp only [eatChar?_before_cons h, Option.bind_eq_bind, Option.bind_some, if_true,
      skipSpace?_before htail, show chain' _ = _ from hread]
    cases result with
    | error e => rfl
    | ok q =>
      have hrest : trimStart rest <:+ text :=
        (trimStart_suffix rest).trans (hsuffix.trans htrim)
      simp only [skipSpace?_before (hsuffix.trans htrim), Option.bind_some]
      by_cases hclose : (trimStart rest).head? = some ')'
      · obtain ⟨after, hafter⟩ := List.head?_eq_some_iff.mp hclose
        rw [hafter] at hrest ⊢
        simp only [eatChar?_before_cons hrest, Option.bind_some, if_true]
      · simp only [eatChar?_before_of_ne hrest hclose, Option.bind_some, Bool.false_eq_true,
          if_false]
        generalize trimStart rest = after at hclose hrest
        split
        · exact absurd rfl hclose
        · exact settle_before hrest _
  · rw [Query.toPair_readGroup_of_ne hopen]
    simp only [eatChar?_before_of_ne h hopen, Option.bind_eq_bind, Option.bind_some,
      Bool.false_eq_true, if_false]
    exact settle_before h _

lemma part_follows (h : cs <:+ text)
    (hchain : ∀ ds, ds <:+ text → utf8Size ds < utf8Size cs →
      Follows chain' text ds (Query.readChain ds).toPair) :
    Follows (part chain') text cs (Query.readPart cs).toPair := by
  unfold Follows part
  cases hname : Token.name? cs with
  | none =>
    rw [Query.toPair_readPart_of_none hname]
    simp only [take?_before_none h hname, Option.bind_eq_bind, Option.bind_some]
    exact group_follows h hchain
  | some pair =>
    obtain ⟨name, rest⟩ := pair
    have hrest := Token.suffix_of_name? hname
    rw [Query.toPair_readPart_of_name hname]
    simp only [take?_before_some h hname hrest, Option.bind_eq_bind, Option.bind_some]
    exact comparison_follows name (hrest.trans h)

/-- By induction on the depth: a chain is nested in another one only behind a parenthesis or a
keyword, so less of the text is left for it. -/
theorem chain_follows {depth : Nat} (h : cs <:+ text) (hdepth : utf8Size cs < depth) :
    Follows (chain depth) text cs (Query.readChain cs).toPair := by
  induction depth generalizing cs with
  | zero => exact absurd hdepth (Nat.not_lt_zero _)
  | succ depth ih =>
    have hinner : ∀ ds, ds <:+ text → utf8Size ds < utf8Size cs →
        Follows (chain depth) text ds (Query.readChain ds).toPair :=
      fun ds hds hlt => ih hds (Nat.lt_of_lt_of_le hlt (Nat.le_of_lt_succ hdepth))
    have hpart := part_follows h hinner
    have hsuffix := (Query.readPart cs).rest_suffix
    change (Query.readPart cs).toPair.2 <:+ _ at hsuffix
    rw [Query.toPair_readChain]
    generalize (Query.readPart cs).toPair = outcome at hpart hsuffix
    obtain ⟨result, rest⟩ := outcome
    unfold Follows chain
    simp only [show part (chain depth) _ = _ from hpart, Option.bind_eq_bind, Option.bind_some]
    cases result with
    | error e => rfl
    | ok left =>
      dsimp only at hsuffix ⊢
      cases hk : Token.keyword? rest with
      | none => simp only [take?_before_none (hsuffix.trans h) hk, Option.bind_some]
      | some pair =>
        obtain ⟨op, after⟩ := pair
        obtain ⟨hafter, hshorter⟩ := Token.suffix_of_keyword? hk
        have hlt : utf8Size after < utf8Size cs :=
          Nat.lt_of_lt_of_le (utf8Size_lt_of_suffix hafter hshorter) (utf8Size_le_of_suffix hsuffix)
        have hright := hinner after (hafter.trans (hsuffix.trans h)) hlt
        simp only [take?_before_some (hsuffix.trans h) hk hafter, Option.bind_some,
          show chain depth _ = _ from hright]

end Follows

end Walk

/-! ### Calls -/

namespace Parser

/-- The parser after a number of calls. -/
def after (p : Parser) : Nat → Parser
  | 0 => p
  | k + 1 => (p.after k).parse.2

/-- The cursor in the place where the parser stands. -/
def cursor (p : Parser) : Cursor :=
  ⟨p.source, p.position, Nat.sub_le _ _⟩

variable (p : Parser)

lemma cursor_eq_before : p.cursor = .before p.source p.rest := rfl

lemma parse_rest_suffix : p.parse.2.rest <:+ p.rest := by
  rw [parse_rest]
  exact (Query.readGroup p.rest).rest_suffix

lemma eq_of_rest {p p' : Parser} (hsource : p.source = p'.source) (hrest : p.rest = p'.rest) :
    p = p' := by
  obtain ⟨source, rest, h⟩ := p
  obtain ⟨source', rest', h'⟩ := p'
  cases hsource
  cases hrest
  rfl

/-- A call is a walk that does not break off, if as many chains can be nested as bytes are left. -/
theorem call_cursor {depth : Nat} (h : utf8Size p.rest ≤ depth) :
    Walk.call depth p.cursor = some (p.parse.1, p.parse.2.cursor) := by
  have hgroup := Walk.group_follows p.rest_suffix fun ds hds hlt =>
    Walk.chain_follows hds (Nat.lt_of_lt_of_le hlt h)
  have hsuffix := (Query.readGroup p.rest).rest_suffix
  change (Query.readGroup p.rest).toPair.2 <:+ _ at hsuffix
  rw [cursor_eq_before p, cursor_eq_before p.parse.2, parse_source, parse_rest, parse_fst]
  generalize (Query.readGroup p.rest).toPair = outcome at hgroup hsuffix
  obtain ⟨result, rest⟩ := outcome
  have hrest := hsuffix.trans p.rest_suffix
  unfold Walk.call
  simp only [show Walk.group _ _ = _ from hgroup, Option.bind_eq_bind, Option.bind_some]
  cases result with
  | error e => rfl
  | ok q =>
    simp only [Cursor.isAtEnd_before hrest]
    cases rest with
    | nil => rfl
    | cons c rest => exact Walk.settle_before hrest _

lemma position_parse_le : p.parse.2.position ≤ utf8Size p.source := by
  rw [position, parse_source]
  exact Nat.sub_le _ _

lemma position_le_parse : p.position ≤ p.parse.2.position := by
  have hle := utf8Size_le_of_suffix p.parse_rest_suffix
  rw [position, position, parse_source]
  omega

lemma rest_eq_of_position (h : p.parse.2.position = p.position) : p.parse.2.rest = p.rest := by
  apply eq_of_suffix_of_utf8Size p.parse_rest_suffix
  have hle := utf8Size_le_of_suffix p.rest_suffix
  have hle' := utf8Size_le_of_suffix p.parse.2.rest_suffix
  rw [parse_source] at hle'
  rw [position, position, parse_source] at h
  omega

/-- A group consumes its opening parenthesis, whatever is behind it. -/
lemma length_readGroup_cons_lt (tail : List Char) :
    (Query.readGroup ('(' :: tail)).toPair.2.length < ('(' :: tail).length := by
  have hchain := (Query.readChain (trimStart tail)).rest_suffix
  have htail := hchain.length_le.trans (trimStart_suffix tail).length_le
  change (Query.readChain (trimStart tail)).toPair.2.length ≤ _ at htail
  rw [Query.toPair_readGroup_cons, List.length_cons]
  generalize (Query.readChain (trimStart tail)).toPair = outcome at htail
  obtain ⟨result, rest⟩ := outcome
  cases result with
  | error e => exact Nat.lt_succ_of_le htail
  | ok q =>
    have hrest := (trimStart_suffix rest).length_le
    dsimp only at htail ⊢
    split
    · rename_i heq
      rw [heq, List.length_cons] at hrest
      dsimp only
      omega
    · dsimp only
      omega

/-- A call that consumes nothing has not found a parenthesis, and leaves the parser as it is. -/
theorem parse_of_position (h : p.parse.2.position = p.position) :
    p.parse = (.error (.ofFault p.rest .missingOpen), p) := by
  have hrest := p.rest_eq_of_position h
  have hhead : p.rest.head? ≠ some '(' := by
    intro hopen
    obtain ⟨tail, htail⟩ := List.head?_eq_some_iff.mp hopen
    have hlt := length_readGroup_cons_lt tail
    rw [← htail, ← parse_rest, hrest] at hlt
    exact absurd hlt (Nat.lt_irrefl _)
  apply Prod.ext
  · rw [parse_fst, Query.toPair_readGroup_of_ne hhead]
  · exact eq_of_rest p.parse_source hrest

/-! ### Repeated calls -/

lemma after_add (k j : ℕ) : p.after (k + j) = (p.after k).after j := by
  induction j with
  | zero => rfl
  | succ j ih => rw [Nat.add_succ, after, after, ih]

lemma source_after (k : ℕ) : (p.after k).source = p.source := by
  induction k with
  | zero => rfl
  | succ k ih => rw [after, parse_source, ih]

lemma after_of_parse_eq (h : p.parse.2 = p) (k : ℕ) : p.after k = p := by
  induction k with
  | zero => rfl
  | succ k ih => rw [after, ih, h]

/-- Every call consumes something, until one does not and no further one does. -/
lemma le_position_after_or (k : ℕ) :
    k ≤ (p.after k).position ∨ (p.after k).parse.2 = p.after k := by
  induction k with
  | zero => exact .inl (Nat.zero_le _)
  | succ k ih =>
    by_cases hmove : (p.after k).parse.2.position = (p.after k).position
    · have hstay : (p.after k).parse.2 = p.after k :=
        congrArg Prod.snd ((p.after k).parse_of_position hmove)
      exact .inr (by rw [after, hstay, hstay])
    · have hle := (p.after k).position_le_parse
      cases ih with
      | inl hk => exact .inl (by rw [after]; omega)
      | inr hstay => exact absurd (congrArg position hstay) hmove

/-- After as many calls as the source has bytes, no call consumes anything. -/
lemma parse_after_utf8Size :
    (p.after (utf8Size p.source)).parse.2 = p.after (utf8Size p.source) := by
  cases p.le_position_after_or (utf8Size p.source) with
  | inr hstay => exact hstay
  | inl hle =>
    have hbound := (p.after (utf8Size p.source)).position_parse_le
    have hmove := (p.after (utf8Size p.source)).position_le_parse
    rw [source_after] at hbound
    exact congrArg Prod.snd (parse_of_position _ (by omega))

/-- However often a parser is called, its cursor is between two characters, and the walk of the next
call does not break off when chains are nested as deep as the source has bytes. The cursor is never
taken back. If a call leaves it in place, then all further calls fail for want of a parenthesis, and
this is so after as many calls as the source has bytes. -/
theorem walk_after (source : List Char) :
    (ofSource source).cursor = .ofText source ∧ ∀ k : ℕ,
      let p := (ofSource source).after k
      p.cursor.rest? = some p.rest ∧
        Walk.call (utf8Size source) p.cursor = some (p.parse.1, p.parse.2.cursor) ∧
        p.position ≤ p.parse.2.position ∧ p.parse.2.position ≤ utf8Size source ∧
        (p.parse.2.position = p.position ∨ utf8Size source ≤ k →
          ∀ j, (p.after j).parse.1 = .error (.ofFault p.rest .missingOpen)) := by
  refine ⟨Cursor.before_self source, fun k => ?_⟩
  intro p
  have hsource : p.source = source := (ofSource source).source_after k
  refine ⟨Cursor.rest?_before p.rest_suffix, p.call_cursor ?_, p.position_le_parse, ?_, ?_⟩
  · rw [← hsource]
    exact utf8Size_le_of_suffix p.rest_suffix
  · rw [← hsource]
    exact p.position_parse_le
  · intro h j
    have hmove : p.parse.2.position = p.position := by
      cases h with
      | inl hmove => exact hmove
      | inr hk =>
        obtain ⟨i, rfl⟩ := Nat.exists_eq_add_of_le hk
        have hstay : ((ofSource source).after (utf8Size source)).parse.2 = _ :=
          (ofSource source).parse_after_utf8Size
        have hlast : p = (ofSource source).after (utf8Size source) := by
          rw [← after_of_parse_eq _ hstay i, ← after_add]
        rw [hlast]
        exact congrArg position hstay
    have hparse := p.parse_of_position hmove
    rw [after_of_parse_eq p (congrArg Prod.snd hparse) j, hparse]

/-- The first call reads a query and the second one half of another, and all others are at the
end. -/
theorem walk_after_halfQuery :
    let p := (ofSource "(a)(b".toList).after 2
    p.parse.2.position = p.position ∧ p.rest = [] ∧
      (p.after 5).parse.1 = .error (.ofFault [] .missingOpen) := by
  have hmove : ((ofSource "(a)(b".toList).after 2).parse.2.position =
      ((ofSource "(a)(b".toList).after 2).position := by
    decide +kernel
  have hrest : ((ofSource "(a)(b".toList).after 2).rest = [] := by
    decide +kernel
  refine ⟨hmove, hrest, ?_⟩
  rw [← hrest]
  exact ((walk_after "(a)(b".toList).2 2).2.2.2.2 (.inl hmove) 5

end Parser

end FilterQuery
