import FilterQuery.Regex.Basic

/-!
# Expressions of patterns

What a pattern is written in goes beyond regular expressions: it can look ahead and behind, refer
to what a group matched, and forbid to come back to a part. `Expr.shape` says how much text an
expression takes up and whether it is beyond the regular engine.
-/

namespace FilterQuery.Pattern

inductive Expr where
  | empty
  /-- Any character, or any but the line feed. -/
  | any (lineFeed : Bool)
  | assertion (a : Assertion)
  | literal (c : Char) (ignoreCase : Bool)
  /-- A set of characters, as it is spelled in regular expressions. -/
  | spelled (text : List Char) (ignoreCase : Bool)
  | seq (items : List Expr)
  | alt (branches : List Expr)
  /-- A group that keeps its text under a number. -/
  | group (index : Nat) (body : Expr)
  /-- Whether the body matches or not, after the position or before it. -/
  | look (behind negated : Bool) (body : Expr)
  /-- A repetition, which has a number of its own. -/
  | repeated (loop : Nat) (body : Expr) (least : Nat) (most : Option Nat) (greedy : Bool)
  /-- The text that a group has kept. -/
  | back (index : Nat)
  /-- The preferred match of the body, and no other. -/
  | atomic (body : Expr)
  /-- Whether a group has been entered. -/
  | entered (index : Nat)
  /-- Leaves what is before the position out of the text of the match. -/
  | keepOut
  /-- The position where the search begins. -/
  | searchStart
  /-- The second part after the condition, and the third in its place where it does not hold. -/
  | conditional (condition yes no : Expr)

namespace Expr

def isEmpty : Expr → Bool
  | empty => true
  | _ => false

def ofItems : List Expr → Expr
  | [] => empty
  | [e] => e
  | es => seq es

def ofBranches : List Expr → Expr
  | [] => empty
  | [e] => e
  | es => alt es

/-- Conditions alone, looking around, and nothing at all cannot be repeated. -/
def isRepeatable : Expr → Bool
  | empty | assertion _ | look _ _ _ => false
  | _ => true

end Expr

/-- How much text an expression takes up, at least and always or not, and whether it is beyond the
regular engine. -/
structure Shape where
  minSize : Nat
  isConst : Bool
  isHard : Bool

namespace Shape

/-- The shape of what takes up no text. -/
def none : Shape := ⟨0, true, false⟩

def char : Shape := ⟨1, true, false⟩

def seq (s t : Shape) : Shape :=
  ⟨s.minSize + t.minSize, s.isConst && t.isConst, s.isHard || t.isHard⟩

def alt (s t : Shape) : Shape :=
  ⟨min s.minSize t.minSize, s.isConst && t.isConst && s.minSize == t.minSize, s.isHard || t.isHard⟩

/-- The shape of something that is beyond the regular engine. -/
def hard (s : Shape) : Shape := { s with isHard := true }

/-- Whether the part is regular and always takes up the same amount of text. -/
def isFixed (s : Shape) : Bool := s.isConst && !s.isHard

end Shape

/-- The shape of a condition on the position. Word edges count as beyond the regular engine. -/
def assertionShape : Assertion → Shape
  | .word _ _ => Shape.none.hard
  | _ => .none

mutual

def Expr.shape : Expr → Shape
  | .empty => .none
  | .any _ | .literal _ _ | .spelled _ _ => .char
  | .assertion a => assertionShape a
  | .seq items => Expr.seqShape items
  | .alt branches => Expr.altShape branches
  | .group _ e => e.shape
  | .look _ _ _ | .entered _ | .keepOut | .searchStart => Shape.none.hard
  | .repeated _ e least most _ =>
    let s := e.shape
    ⟨s.minSize * least, s.isConst && most == some least, s.isHard⟩
  | .back _ => ⟨0, false, true⟩
  | .atomic e => e.shape.hard
  | .conditional c y n =>
    let taken := c.shape.seq y.shape
    let other := n.shape
    ⟨c.shape.minSize + min y.shape.minSize other.minSize,
      taken.isConst && other.isConst && taken.minSize == other.minSize, true⟩

def Expr.seqShape : List Expr → Shape
  | [] => .none
  | e :: es => e.shape.seq (Expr.seqShape es)

def Expr.altShape : List Expr → Shape
  | [] => .none
  | [e] => e.shape
  | e :: es => e.shape.alt (Expr.altShape es)

end

end FilterQuery.Pattern
