import FilterQuery.Regex.ByteRanges
import FilterQuery.Regex.Normal
import FilterQuery.Regex.Reader
import Std.Data.TreeMap.Basic

/-!
# Sizes of expressions

An expression is accepted only if its automata fit into a fixed number of bytes. There are two, one
for reading forward and one for reading backward, over the bytes of UTF-8. `Automaton` counts the
states of an automaton and the bytes that they take up while it is built; what it builds follows
the construction state by state, because states of equal form are shared as long as the builder
remembers them.
-/

namespace FilterQuery.Regex

/-- An automaton that is being built. -/
structure Automaton where
  states : Nat
  /-- The bytes of transitions and branches, beyond those of the states themselves. -/
  details : Nat

namespace Automaton

def maxBytes : Nat := 10 * 1024 * 1024

def bytes (m : Automaton) : Nat :=
  32 * m.states + m.details

/-- Adds states and bytes, if there is room. -/
def grow (states details : Nat) (m : Automaton) : Option Automaton :=
  let m : Automaton := ⟨m.states + states, m.details + details⟩
  if m.bytes ≤ maxBytes then some m else none

/-- The bytes of a number of transitions. -/
def transitions (n : Nat) : Nat := 8 * n

/-- The bytes of a number of branches. -/
def branches (n : Nat) : Nat := 4 * n

/-- Applies a step some number of times. -/
def steps (step : Automaton → Option Automaton) : Nat → Automaton → Option Automaton
  | 0, m => some m
  | n + 1, m => (step m).bind (steps step n)

/-! ### Shared states -/

/-- A memory for states, with one place for each value of a hash function. A state takes the place
of the one before. -/
abbrev Memory (α : Type) := Std.TreeMap Nat (α × Nat)

def hashStep (h : UInt64) (n : Nat) : UInt64 :=
  (h ^^^ UInt64.ofNat n) * 1099511628211

def hash (ns : List Nat) : UInt64 :=
  ns.foldl hashStep 14695981039346656037

/-- The number of a state, if its place holds that very state. -/
def remembered? {α : Type} [DecidableEq α] (memory : Memory α) (place : Nat) (a : α) :
    Option Nat :=
  match memory[place]? with
  | some (b, id) => if a = b then some id else none
  | none => none

/-! ### Sets, forward -/

/-- A range of bytes and the state that follows. -/
abbrev Transition := ByteRange × Nat

/-- The state that is being built for one byte of an encoding: its transitions, with the last first,
and the range whose following state is not known yet. -/
structure Unfinished where
  transitions : List Transition
  last : Option ByteRange

/-- What is known while the states of a set are built. The unfinished states stand for the bytes of
the latest encoding, the deepest first. -/
structure SetBuilder where
  automaton : Automaton
  memory : Memory (List Transition)
  unfinished : List Unfinished

/-- The transitions of an unfinished state whose last range is followed by `next`. -/
def Unfinished.finish (u : Unfinished) (next : Nat) : List Transition :=
  match u.last with
  | some r => (r, next) :: u.transitions
  | none => u.transitions

def placeOf (ts : List Transition) : Nat :=
  (hash (ts.reverse.flatMap fun t => [t.1.1, t.1.2, t.2])).toNat % 10000

/-- The number of a state with some transitions, which is added unless it is remembered. -/
def addShared (b : SetBuilder) (ts : List Transition) : Option (Nat × SetBuilder) :=
  match remembered? b.memory (placeOf ts) ts with
  | some id => some (id, b)
  | none => (b.automaton.grow 1 (Automaton.transitions ts.length)).map fun m =>
    let memory := b.memory.insert (placeOf ts) (ts, b.automaton.states)
    (b.automaton.states, { b with automaton := m, memory })

/-- Finishes the deepest states until `depth` are left, of which the last has its range finished. -/
def finishTo (depth : Nat) : List Unfinished → Nat → SetBuilder → Option SetBuilder
  | [], _, b => some { b with unfinished := [] }
  | u :: rest, next, b =>
    if depth ≤ rest.length then do
      let (id, b) ← addShared b (u.finish next)
      finishTo depth rest id b
    else some { b with unfinished := ⟨u.finish next, none⟩ :: rest }

/-- The number of ranges at the start of an encoding that the one before has in common. -/
def sharedDepth : List Unfinished → List ByteRange → Nat
  | u :: us, r :: rs => if u.last = some r then sharedDepth us rs + 1 else 0
  | _, _ => 0

/-- Adds the states for the encodings in a sequence of ranges. The state after them is `target`. -/
def addEncoding (target : Nat) (b : SetBuilder) (rs : List ByteRange) : Option SetBuilder := do
  let depth := sharedDepth b.unfinished.reverse rs
  let b ← finishTo (depth + 1) b.unfinished target b
  match rs.drop depth, b.unfinished with
  | r :: rest, u :: us =>
    let deeper := rest.map fun r => (⟨[], some r⟩ : Unfinished)
    some { b with unfinished := deeper.reverse ++ { u with last := some r } :: us }
  | _, _ => some b

/-- The states that read a character of a set. -/
def addSetForward (s : CharSet) (m : Automaton) : Option Automaton := do
  let target := m.states
  let b : SetBuilder := ⟨← m.grow 1 0, ∅, [⟨[], none⟩]⟩
  let b ← (s.ranges.flatMap byteRanges).foldlM (addEncoding target) b
  let b ← finishTo 1 b.unfinished target b
  let (_, b) ← addShared b ((b.unfinished.head?.map (·.transitions)).getD [])
  some b.automaton

/-! ### Sets, backward -/

/-- Adds the states for the encodings in a sequence of ranges, which are read from the last byte to
the first. A state is given by the range that it reads and the state that follows. -/
def addEncodingBackward (target : Nat) (b : Automaton × Memory (Nat × ByteRange))
    (rs : List ByteRange) : Option (Automaton × Memory (Nat × ByteRange)) := do
  let step (b : (Automaton × Memory (Nat × ByteRange)) × Nat) (r : ByteRange) :
      Option ((Automaton × Memory (Nat × ByteRange)) × Nat) :=
    let ((m, memory), next) := b
    let place := (hash [next, r.1, r.2]).toNat % 1000
    match remembered? memory place (next, r) with
    | some id => some ((m, memory), id)
    | none => (m.grow 1 0).map fun m' =>
      ((m', memory.insert place ((next, r), m.states)), m.states)
  let ((m, memory), _) ← rs.foldlM step (b, target)
  some (← m.grow 0 (Automaton.branches 1), memory)

def addSetBackward (s : CharSet) (m : Automaton) : Option Automaton := do
  let target := m.states + 1
  let m ← m.grow 2 0
  let (m, _) ← (s.ranges.flatMap byteRanges).foldlM (addEncodingBackward target) (m, ∅)
  some m

/-! ### Alternative texts -/

/-- The texts behind each first byte, in the order of the first texts with it. -/
def groupByFirst : List (List Nat) → List (Nat × List (List Nat))
  | [] => []
  | [] :: rest => groupByFirst rest
  | (b :: bs) :: rest =>
    let groups := groupByFirst rest
    match groups.lookup b with
    | some others => (b, bs :: others) :: groups.filter (·.1 != b)
    | none => (b, [bs]) :: groups

/-- Cuts a list of texts where one of them is empty. An end that follows another end with no text
before is the same end. -/
def cutAtEnds : List (List Nat) → List (List (List Nat))
  | [] => [[]]
  | [] :: rest => [] :: cutAtEnds rest
  | t :: rest =>
    match cutAtEnds rest with
    | [] => [[t]]
    | ts :: others => (t :: ts) :: others

/-- Drops the ends before the first text that repeat an end. -/
def dropRepeatedEnds : List (List Nat) → List (List Nat)
  | [] :: [] :: rest => dropRepeatedEnds ([] :: rest)
  | ts => ts
termination_by ts => ts.length

/-- The states and the bytes of a tree of texts that share their starts. Between two ends the texts
are ordered by their bytes, so each part is one state with a transition for each first byte. -/
def textTree : Nat → List (List Nat) → Nat × Nat
  | 0, _ => (0, 0)
  | fuel + 1, texts =>
    let parts := (cutAtEnds (dropRepeatedEnds texts)).map groupByFirst
    let filled := parts.filter (· ≠ [])
    let children := parts.flatMap fun groups => groups.filterMap fun g =>
      if g.2.any (· ≠ []) then some (textTree fuel g.2) else none
    let own := filled.foldl
      (fun n groups => n + if groups.length = 1 then 0 else transitions groups.length) 0
    let ends := parts.length - 1
    (children.foldl (fun n c => n + c.1) (filled.length + 1),
      children.foldl (fun n c => n + c.2) (own + branches (filled.length + ends)))

def encode (cs : List Char) : List Nat :=
  cs.flatMap fun c => encodeUtf8 c.toNat

/-- The encodings of expressions that are all texts. -/
def texts? : List Normal → Option (List (List Nat))
  | [] => some []
  | .literal cs :: rest => (texts? rest).map (encode cs :: ·)
  | _ => none

/-! ### Expressions -/

/-- What adds the states of an expression. -/
abbrev Adding := Automaton → Option Automaton

/-- The states of a repetition. -/
def addRepetition (mayBeEmpty : Bool) (body : Adding) (least : Nat) (most : Option Nat) : Adding :=
  fun m => do
    match most with
    | some n =>
      if least = n then steps body n m
      else if least = 0 ∧ n = 1 then (← body (← m.grow 1 0)).grow 1 (branches 2)
      else
        let m ← if least = 0 then m.grow 1 0 else steps body least m
        steps (fun m => do body (← m.grow 1 (branches 2))) (n - least) (← m.grow 1 0)
    | none =>
      if 0 < least then (← steps body least m).grow 1 (branches 2)
      else if mayBeEmpty then (← body m).grow 3 (branches 4)
      else body (← m.grow 1 (branches 2))

/-- The states of alternatives, after which there is a state where they meet. -/
def addBranches (first second : Adding) (others : List Adding) : Adding := fun m => do
  let m ← (← second (← first m)).grow 2 (branches 2)
  others.foldlM (fun m body => do (← body m).grow 0 (branches 1)) m

/-- The ways to add each of the alternatives of an expression. -/
def addNormal (backward : Bool) : Normal → List Adding
  | .empty => [grow 1 0]
  | .literal cs => [grow (encode cs).length 0]
  | .set s =>
    if s.isAscii then [grow 2 (transitions s.ranges.length)]
    else if backward then [addSetBackward s]
    else [addSetForward s]
  | .assertion _ => [grow 1 0]
  | .capture _ r =>
    let body := addChoice backward r (addNormal backward r)
    if backward then [body]
    else [fun m => do (← body (← m.grow 1 0)).grow 1 0]
  | .repeated r least most _ =>
    let body := addChoice backward r (addNormal backward r)
    [addRepetition (r.minLength.all (· = 0)) body least most]
  | .seq r s =>
    let first := addChoice backward r (addNormal backward r)
    let second := addChoice backward s (addNormal backward s)
    if backward then [fun m => do first (← second m)] else [fun m => do second (← first m)]
  | .alt r s => addNormal backward r ++ addNormal backward s
where
  /-- Adds alternatives; texts are put into one tree. -/
  addChoice (backward : Bool) (r : Normal) (bodies : List Adding) : Adding :=
    match bodies with
    | first :: second :: others =>
      match texts? r.branches with
      | some ts =>
        let ts := if backward then ts.map List.reverse else ts
        let (states, details) := textTree (ts.foldl (fun n t => n + t.length) 1) ts
        grow (states + 1) details
      | none => addBranches first second others
    | [body] => body
    | [] => some

/-- The automaton of an expression. A loop in front of it passes over what comes before a match,
unless every match is at the one end of the text. -/
def ofNormal? (backward : Bool) (r : Normal) : Option Automaton := do
  let anchored := if backward then r.endsWith .textEnd else r.startsWith .textStart
  let m : Automaton ←
    if anchored then grow 1 0 ⟨0, 0⟩ else grow 3 (branches 2 + transitions 1) ⟨0, 0⟩
  let body := addNormal.addChoice backward r (addNormal backward r)
  if backward then (← body m).grow 1 0 else (← body (← m.grow 1 0)).grow 2 0

end Automaton

/-- Whether the automata of an expression fit into the room for them. -/
def fits (r : Regex) : Bool :=
  let r := r.normal
  (Automaton.ofNormal? false r).isSome && (Automaton.ofNormal? true r).isSome

/-- The expression that takes up the whole text, if it is not too big. -/
def compile? (ignoreCase : Bool) (cs : List Char) : Option Regex :=
  (read? ignoreCase cs).filter fits

end FilterQuery.Regex
