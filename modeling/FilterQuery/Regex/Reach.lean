import FilterQuery.Regex.Position

/-!
# Matching as reachability

An expression leads from positions in a text to positions. `Regex.reach` takes all the positions at
once, so that each is looked at once however many ways lead to it. A text has a match where some
position can be reached.
-/

namespace FilterQuery.Regex

/-- The positions of both lists, those of the second being added to the first. -/
def joinPositions (ps qs : List Nat) : List Nat :=
  ps ++ qs.filter fun i => !ps.contains i

/-- Applies a step some number of times. -/
def rounds (step : List Nat → List Nat) : Nat → List Nat → List Nat
  | 0, ps => ps
  | n + 1, ps => rounds step n (step ps)

/-- What is reached from `seen` in at most `n` steps, where `new` was reached in the last one. -/
def reachWithin (step : List Nat → List Nat) : Nat → List Nat → List Nat → List Nat
  | 0, seen, _ => seen
  | n + 1, seen, new =>
    let next := (step new).eraseDups.filter fun i => !seen.contains i
    if next = [] then seen else reachWithin step n (seen ++ next) next

/-- The positions after a match of an expression that starts at one of some positions. A repetition
moves on at most as often as there are characters; rounds beyond that stay where they are, so that
their number does not matter. -/
def reach (text : Array Char) : Regex → List Nat → List Nat
  | empty, ps => ps
  | set s _, ps => ps.filterMap fun i => if text[i]?.any s.contains then some (i + 1) else none
  | assertion a, ps => ps.filter fun i => a.holdsAt text i
  | seq r s, ps => reach text s (reach text r ps)
  | alt r s, ps => joinPositions (reach text r ps) (reach text s ps)
  | group _ r, ps => reach text r ps
  | repeated r least most _, ps =>
    let bound := text.size + 1
    let start := (rounds (reach text r) (min least bound) ps).eraseDups
    let more := match most with
      | none => bound
      | some m => min (m - least) bound
    reachWithin (reach text r) more start start

/-- Whether the expression matches somewhere in a text. -/
def isMatch (r : Regex) (text : List Char) : Bool :=
  reach text.toArray r (List.range (text.length + 1)) != []

end FilterQuery.Regex
