import FilterQuery.Text.Basic

/-!
# Flags

The modes in which a regular expression is read. They can be changed within the expression, up to
the end of the group.
-/

namespace FilterQuery.Regex

structure Flags where
  ignoreCase : Bool
  multiLine : Bool
  dotAll : Bool
  swapGreed : Bool
  /-- A carriage return ends a line as well. -/
  crlf : Bool
  /-- Sets have members of all scripts, and not of ASCII alone. -/
  unicode : Bool
  /-- White space and comments stand for nothing. -/
  spaced : Bool
deriving DecidableEq

namespace Flags

/-- The modes that an expression starts with. -/
def initial (ignoreCase : Bool) : Flags :=
  ⟨ignoreCase, false, false, false, false, true, false⟩

/-- Turns the mode with a given letter on or off. -/
def switch? (f : Flags) (letter : Char) (on : Bool) : Option Flags :=
  match letter with
  | 'i' => some { f with ignoreCase := on }
  | 'm' => some { f with multiLine := on }
  | 's' => some { f with dotAll := on }
  | 'U' => some { f with swapGreed := on }
  | 'R' => some { f with crlf := on }
  | 'u' => some { f with unicode := on }
  | 'x' => some { f with spaced := on }
  | _ => none

end Flags

/-- Skips white space and comments, which start with a number sign and end with the line. -/
def skipSpaceFrom (inComment : Bool) : List Char → List Char
  | [] => []
  | c :: rest =>
    if inComment then skipSpaceFrom (c != '\n') rest
    else if Unicode.isSpace c then skipSpaceFrom false rest
    else if c = '#' then skipSpaceFrom true rest
    else c :: rest

/-- Skips what stands for nothing. -/
def Flags.skip (f : Flags) (cs : List Char) : List Char :=
  if f.spaced then skipSpaceFrom false cs else cs

/-- The letters of a change of modes up to a parenthesis or a colon, and what follows. Each letter
and the minus sign stand there once at most, and the minus sign is followed by a letter. -/
def readFlags (seen : List Char) (f : Flags) : List Char → Option (Flags × List Char)
  | [] => none
  | c :: rest =>
    if c = ':' ∨ c = ')' then
      if seen.head? = some '-' then none else some (f, c :: rest)
    else if seen.contains c then none
    else if c = '-' then readFlags (c :: seen) f rest
    else (f.switch? c (!seen.contains '-')).bind fun f => readFlags (c :: seen) f rest

end FilterQuery.Regex
