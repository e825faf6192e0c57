import FilterQuery.Pattern.Outcome
import FilterQuery.Pattern.Reader
import FilterQuery.Regex.Reach

/-!
# Matchers

A matcher is what a pattern is compiled to: a regular expression if it is one, and else a plan. The
flag for ignoring case reaches regular expressions only; a plan minds letter case unless the pattern
itself says otherwise.
-/

namespace FilterQuery.Pattern

inductive Matcher where
  | regular (r : Regex)
  | planned (p : Plan) (slots : Nat)

namespace Matcher

/-- The matcher of an expression, and of a number of groups and of repetitions in it. -/
def ofExpr? (ignoreCase : Bool) (e : Expr) (groups loops : Nat) : Option Matcher :=
  if e.shape.isHard then
    let firstLoop := 2 * (groups + 1)
    (e.plan ⟨e.references, firstLoop⟩ true).map fun p => planned p (firstLoop + loops)
  else (Regex.read? ignoreCase (e.spell 0)).map regular

/-- The matcher of a source, if the source is a pattern. -/
def ofSource? (ignoreCase : Bool) (source : List Char) : Option Matcher := do
  let (e, groups, loops) ← Pattern.read? source
  ofExpr? ignoreCase e groups loops

/-- Whether the automata fit into the room for them. -/
def fits : Matcher → Bool
  | regular r => r.fits
  | planned p _ => p.fits

/-- Whether there is a match somewhere in a text. -/
def isMatch (text : List Char) : Matcher → Bool
  | regular r => r.isMatch text
  | planned p slots => p.isMatch slots text

end Matcher

end FilterQuery.Pattern
