import FilterQuery.Pattern.Expr
import FilterQuery.Text.Digits

/-!
# Spelling patterns as regular expressions

An expression that is within the regular engine is handed to it in writing. `Expr.spell` writes it
with parentheses as its place asks for: at level 0 anything may stand, at level 1 no bare
alternatives, at level 2 no bare sequences, and at level 3 no bare repetitions.
-/

namespace FilterQuery.Pattern

/-- The characters that stand for something else than themselves. -/
def isMeta (c : Char) : Bool :=
  "\\.+*?()|[]\x7b\x7d^$#".toList.contains c

def spellChar (c : Char) : List Char :=
  if isMeta c then ['\\', c] else [c]

/-- A spelling in a group that keeps no text. -/
def grouped (needed : Bool) (cs : List Char) : List Char :=
  if needed then "(?:".toList ++ cs ++ [')'] else cs

/-- A spelling for which letter case is ignored. -/
def caseless (needed : Bool) (cs : List Char) : List Char :=
  if needed then "(?i:".toList ++ cs ++ [')'] else cs

def spellAssertion : Assertion → List Char
  | .textStart => ['^']
  | .textEnd => ['$']
  | .lineStart _ => "(?m:^)".toList
  | .lineEnd _ => "(?m:$)".toList
  | .word _ _ => []

def spellBounds (least : Nat) (most : Option Nat) (greedy : Bool) : List Char :=
  let bounds := match least, most with
    | 0, some 1 => ['?']
    | 0, none => ['*']
    | 1, none => ['+']
    | m, none => '\x7b' :: Text.digits m ++ [',', '\x7d']
    | m, some n =>
      '\x7b' :: Text.digits m ++ (if m = n then [] else ',' :: Text.digits n) ++ ['\x7d']
  if greedy then bounds else bounds ++ ['?']

mutual

/-- The spelling of an expression at a level. -/
def Expr.spell (level : Nat) : Expr → List Char
  | .empty => []
  | .any lineFeed => if lineFeed then "(?s:.)".toList else ['.']
  | .assertion a => spellAssertion a
  | .literal c ignoreCase => caseless ignoreCase (spellChar c)
  | .spelled text ignoreCase => caseless ignoreCase text
  | .seq items => grouped (1 < level) (Expr.spellItems items)
  | .alt branches => grouped (0 < level) (Expr.spellBranches branches)
  | .group _ e => '(' :: e.spell 0 ++ [')']
  | .repeated _ e least most greedy =>
    grouped (2 < level) (e.spell 3 ++ spellBounds least most greedy)
  | .look _ _ _ | .back _ | .atomic _ | .entered _ | .keepOut | .searchStart
  | .conditional _ _ _ => []

def Expr.spellItems : List Expr → List Char
  | [] => []
  | e :: es => e.spell 2 ++ Expr.spellItems es

def Expr.spellBranches : List Expr → List Char
  | [] => []
  | [e] => e.spell 1
  | e :: es => e.spell 1 ++ '|' :: Expr.spellBranches es

end

end FilterQuery.Pattern
