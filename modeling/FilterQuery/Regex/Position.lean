import FilterQuery.Regex.Basic
import FilterQuery.Unicode.Word

/-!
# Positions

A position in a text is the number of the characters before it. `Assertion.holdsAt` decides a
condition on a position by the characters on both sides.
-/

namespace FilterQuery

/-- Whether `c` counts as part of a word. -/
def isWordChar (ascii : Bool) (c : Char) : Bool :=
  if ascii then c.isAlphanum || c == '_' else Unicode.isWord c

def wordAfter (ascii : Bool) (text : Array Char) (i : Nat) : Bool :=
  text[i]?.any (isWordChar ascii)

def wordBefore (ascii : Bool) (text : Array Char) : Nat → Bool
  | 0 => false
  | i + 1 => wordAfter ascii text i

def WordEdge.holds (before after : Bool) : WordEdge → Bool
  | edge => before != after
  | noEdge => before == after
  | start => !before && after
  | stop => before && !after
  | startHalf => !before
  | stopHalf => !after

/-- A line starts after a line feed, and after a carriage return that no line feed follows. -/
def lineStartAt (crlf : Bool) (text : Array Char) : Nat → Bool
  | 0 => true
  | i + 1 =>
    text[i]? == some '\n' || (crlf && text[i]? == some '\r' && text[i + 1]? != some '\n')

/-- A line ends before a carriage return, and before a line feed that follows none. -/
def lineEndAt (crlf : Bool) (text : Array Char) (i : Nat) : Bool :=
  i == text.size ||
    if crlf then
      text[i]? == some '\r' ||
        (text[i]? == some '\n' && (i == 0 || text[i - 1]? != some '\r'))
    else text[i]? == some '\n'

def Assertion.holdsAt (text : Array Char) (i : Nat) : Assertion → Bool
  | textStart => i == 0
  | textEnd => i == text.size
  | lineStart crlf => lineStartAt crlf text i
  | lineEnd crlf => lineEndAt crlf text i
  | word kind ascii => kind.holds (wordBefore ascii text i) (wordAfter ascii text i)

end FilterQuery
