import FilterQuery.Pattern.Plan
import Std.Data.TreeMap.Basic

/-!
# Carrying out plans

A plan leads from a state to the states after each way of matching it, the preferred one first. A
state that comes up again is left out: what follows from it has been tried by then.
-/

namespace FilterQuery.Pattern

/-- How far matching has come, and the positions noted on the way. -/
structure State where
  position : Nat
  notes : Regex.Notes
deriving DecidableEq

namespace State

def noted? (s : State) (slot : Nat) : Option Nat :=
  s.notes[slot]?.join

def note (s : State) (slot : Nat) (i : Option Nat) : State :=
  { s with notes := s.notes.setIfInBounds slot i }

/-- The slots for the start and the end of what a group matched. -/
def startSlot (index : Nat) : Nat := 2 * index

def stopSlot (index : Nat) : Nat := 2 * index + 1

/-- Whether a text comes next. -/
def isAt (text : Array Char) (s : State) (cs : List Char) : Bool :=
  (text.extract s.position (s.position + cs.length)).toList == cs

/-- The state after a text, if it comes next. -/
def skip (text : Array Char) (s : State) (cs : List Char) : List State :=
  if s.isAt text cs then [{ s with position := s.position + cs.length }] else []

/-- What a group has kept. -/
def kept? (text : Array Char) (s : State) (index : Nat) : Option (List Char) := do
  let start ← s.noted? (startSlot index)
  let stop ← s.noted? (stopSlot index)
  if start ≤ stop then some (text.extract start stop).toList else none

/-- The state after a match of a regular part. -/
def follow (s : State) (kept : List (Nat × Nat)) (found : Regex.Found) : State :=
  kept.foldl
    (fun s (own, index) =>
      (s.note (startSlot index) found.notes[startSlot own]?.join).note (stopSlot index)
        found.notes[stopSlot own]?.join)
    { s with position := found.stop }

end State

/-! ### Repetitions -/

/-- The notes at the start of rounds, by the number and the position of the round. -/
abbrev Tried :=
  Std.TreeMap (Nat × Nat) (List Regex.Notes) (compareLex (compareOn (·.1)) (compareOn (·.2)))

/-- The rounds of a repetition that have been tried, and the states found after the repetition, with
the last first. -/
structure Rounds where
  tried : Tried
  found : List State

def Rounds.hasTried (r : Rounds) (count : Nat) (s : State) : Bool :=
  (r.tried.getD (count, s.position) []).contains s.notes

def Rounds.try (r : Rounds) (count : Nat) (s : State) : Rounds :=
  let place := (count, s.position)
  { r with tried := r.tried.insert place (s.notes :: r.tried.getD place []) }

def Rounds.add (r : Rounds) (s : State) : Rounds :=
  if r.found.contains s then r else { r with found := s :: r.found }

/-- The bounds of a repetition, its preference, and the slot for the position of the latest
round. -/
structure Loop where
  slot : Option Nat
  least : Nat
  most : Option Nat
  greedy : Bool

namespace Loop

/-- The state in which a round starts, or none if the round before it did not move on. The position
is noted once there may be an end. -/
def arrive? (l : Loop) (count : Nat) (s : State) : Option State :=
  match l.slot with
  | none => some s
  | some slot =>
    if count ≠ 0 ∧ s.noted? slot = some s.position then none
    else if l.least ≤ count then some (s.note slot (some s.position))
    else some s

/-- The state after the repetition. If it may end at once, no later round asks for the note. -/
def leave (l : Loop) (s : State) : State :=
  match l.slot with
  | some slot => if l.least = 0 then s.note slot none else s
  | none => s

/-- The number of rounds as far as it matters for what can follow. -/
def next (l : Loop) (count : Nat) : Nat :=
  match l.most with
  | some _ => count + 1
  | none => min (count + 1) (max l.least 1)

/-- Tries the rounds from a state on, at most `fuel` of them in a row. -/
def explore (l : Loop) (body : State → List State) : Nat → Nat → State → Rounds → Rounds
  | 0, _, _, r => r
  | fuel + 1, count, s, r =>
    match l.arrive? count s with
    | none => r
    | some s =>
      if r.hasTried count s then r
      else if l.most = some count then r.add (l.leave s)
      else
        let again (r : Rounds) :=
          (body s).foldl (fun r t => explore l body fuel (l.next count) t r) r
        if count < l.least then again (r.try count s)
        else if l.greedy then (again (r.try count s)).add (l.leave s)
        else again ((r.try count s).add (l.leave s))

/-- The number of rounds in a row that are tried without moving on. -/
def maxIdleRounds : Nat := 10000

/-- The states after a repetition. -/
def outcomes (text : Array Char) (l : Loop) (body : State → List State) (s : State) : List State :=
  (l.explore body (text.size + maxIdleRounds) 0 s ⟨∅, []⟩).found.reverse

end Loop

/-! ### Plans -/

/-- The states after a plan, the preferred one first. -/
def Plan.outcomes (text : Array Char) : Plan → State → List State
  | nothing, s => [s]
  | .text cs, s => s.skip text cs
  | any lineFeed, s =>
    match text[s.position]? with
    | some c => if lineFeed || c != '\n' then [{ s with position := s.position + 1 }] else []
    | none => []
  | assertion a, s => if a.holdsAt text s.position then [s] else []
  | regular part kept, s =>
    match part.machine.search text s.position with
    | some found => [s.follow kept found]
    | none => []
  | seq p q, s => ((p.outcomes text s).flatMap (q.outcomes text)).eraseDups
  | alt p q, s => (p.outcomes text s ++ q.outcomes text s).eraseDups
  | keep index p, s =>
    let inside := p.outcomes text (s.note (State.startSlot index) (some s.position))
    inside.map fun t => t.note (State.stopSlot index) (some t.position)
  | look steps negated p, s =>
    let inside :=
      if steps ≤ s.position then p.outcomes text { s with position := s.position - steps } else []
    if negated then if inside.isEmpty then [s] else []
    else (inside.map fun t => { t with position := s.position }).eraseDups
  | repeated slot p least most greedy, s =>
    Loop.outcomes text ⟨slot, least, most, greedy⟩ (p.outcomes text) s
  | back index, s =>
    match s.kept? text index with
    | some cs => s.skip text cs
    | none => []
  | atomic p, s => (p.outcomes text s).take 1
  | entered index, s => if (s.noted? (State.startSlot index)).isSome then [s] else []
  | conditional c p q, s =>
    match c.outcomes text s with
    | t :: _ => p.outcomes text t
    | [] => q.outcomes text s

/-- Whether a plan can be carried out from some position of a text on, with some slots for notes.
The whole match counts as a group that has been entered. -/
def Plan.isMatch (p : Plan) (slots : Nat) (text : List Char) : Bool :=
  let chars := text.toArray
  (List.range (text.length + 1)).any fun i =>
    let s : State := ⟨i, .replicate slots none⟩
    !(p.outcomes chars (s.note (State.startSlot 0) (some i))).isEmpty

end FilterQuery.Pattern
