import FilterQuery.Regex.CharSet

/-!
# Regular expressions

The expressions of the regular engine: sets of characters, conditions on a position, sequences,
alternatives, repetitions and groups. `Regex.nesting` is how deep an expression is nested in its
written form, which is limited.
-/

namespace FilterQuery

/-- How the characters on both sides of a position relate, as to whether they are in a word. -/
inductive WordEdge where
  | edge
  | noEdge
  | start
  | stop
  /-- No word goes on before the position. -/
  | startHalf
  /-- No word goes on after the position. -/
  | stopHalf
deriving DecidableEq

/-- Conditions on a position that take up no text. -/
inductive Assertion where
  | textStart
  | textEnd
  /-- The start of a line; with `crlf`, a carriage return ends a line as well. -/
  | lineStart (crlf : Bool)
  | lineEnd (crlf : Bool)
  /-- A relation to words, which may be words of ASCII characters alone. -/
  | word (kind : WordEdge) (ascii : Bool)
deriving DecidableEq

inductive Regex where
  | empty
  /-- A character of a set, with the number of classes that are nested in the spelling of the
  set. -/
  | set (s : CharSet) (nesting : Nat)
  | assertion (a : Assertion)
  | seq (first second : Regex)
  /-- Either of two, the first being preferred. -/
  | alt (first second : Regex)
  /-- A group; one with an index keeps the text that it matched. -/
  | group (index : Option Nat) (body : Regex)
  /-- At least `least` times the body, and at most `most` times if there is such a bound. -/
  | repeated (body : Regex) (least : Nat) (most : Option Nat) (greedy : Bool)
deriving DecidableEq

namespace Regex

def sequence : List Regex → Regex
  | [] => empty
  | [r] => r
  | r :: rest => seq r (sequence rest)

/-- The alternatives of some expressions, of which there is at least the first. -/
def alternatives (r : Regex) : List Regex → Regex
  | [] => r
  | s :: rest => alt r (alternatives s rest)

/-- How deep the parts of an expression are nested. The parts of a sequence are all on one level,
and so are those of a chain of alternatives. -/
def nesting : Regex → Nat
  | empty | assertion _ => 0
  | set _ n => n
  | seq r s =>
    match s with
    | seq _ _ => max (r.nesting + 1) s.nesting
    | _ => max r.nesting s.nesting + 1
  | alt r s =>
    match s with
    | alt _ _ => max (r.nesting + 1) s.nesting
    | _ => max r.nesting s.nesting + 1
  | group _ r | repeated r _ _ _ => r.nesting + 1

end Regex

end FilterQuery
