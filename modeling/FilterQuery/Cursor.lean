import FilterQuery.Regex.Search
import FilterQuery.Regex.Size
import FilterQuery.Text.Basic

/-!
# Cursors

A cursor is a byte position in a text. It may be moved into the middle of a character; there the
text cannot be continued, so nothing can be read until the cursor is moved on.

Positions are machine words. A part of the text is never longer than a word can say, so moving over
one is exact. A cursor can also be sent on by any word, and then the new position is added up before
it is compared with the end.
-/

namespace FilterQuery

/-- What a machine does with a sum that is too large for a word. -/
inductive Overflow where
  /-- It stops. -/
  | trap
  /-- It counts on from zero. -/
  | wrap
deriving DecidableEq

namespace Overflow

/-- The sum of two words, if there is one. -/
def add? (o : Overflow) (m n : Nat) : Option Nat :=
  if m + n < UInt64.size then some (m + n)
  else match o with
    | trap => none
    | wrap => some ((m + n) % UInt64.size)

end Overflow

namespace Text

/-- What follows the first `n` bytes, if they end where a character ends. -/
def afterBytes? : Nat → List Char → Option (List Char)
  | 0, cs => some cs
  | _ + 1, [] => none
  | n + 1, c :: cs => if c.utf8Size ≤ n + 1 then afterBytes? (n + 1 - c.utf8Size) cs else none

end Text

structure Cursor where
  text : List Char
  position : Nat
  position_le : position ≤ Text.utf8Size text

namespace Cursor

def ofText (text : List Char) : Cursor :=
  ⟨text, 0, Nat.zero_le _⟩

/-- The text from the position on, if the position is between characters. -/
def rest? (c : Cursor) : Option (List Char) :=
  Text.afterBytes? c.position c.text

def isAtEnd (c : Cursor) : Bool :=
  Text.utf8Size c.text ≤ c.position

/-- Moves to a position, but not beyond the end. -/
def moveTo (c : Cursor) (position : Nat) : Cursor :=
  ⟨c.text, min position (Text.utf8Size c.text), Nat.min_le_right _ _⟩

/-- Moves over a part of the rest that has `n` bytes. -/
def moveOver (c : Cursor) (n : Nat) : Cursor :=
  c.moveTo (c.position + n)

/-- Moves on by any number of bytes, but not beyond the end, if the new position can be added up. -/
def advance? (o : Overflow) (c : Cursor) (n : UInt64) : Option Cursor :=
  (o.add? c.position n.toNat).map c.moveTo

/-- The next character, which there is none of at the end. -/
def next? (c : Cursor) : Option (Option Char) :=
  c.rest?.map List.head?

def skipSpace? (c : Cursor) : Option Cursor :=
  c.rest?.map fun rest => c.moveOver (Text.utf8Size (rest.takeWhile Unicode.isSpace))

/-- Moves over the next character if it is the one expected, and says whether it was. -/
def eatChar? (c : Cursor) (expected : Char) : Option (Bool × Cursor) :=
  c.rest?.map fun rest =>
    if rest.head? = some expected then (true, c.moveOver expected.utf8Size) else (false, c)

/-- The groups of a match, the whole match being the first of them. -/
abbrev Captures := List (Option (List Char))

/-- The match that starts at the position. -/
def peek? (c : Cursor) (r : Regex) : Option (Option Captures) :=
  c.rest?.map r.captures?

/-- Moves over the match that starts at the position. -/
def eat? (c : Cursor) (r : Regex) : Option (Option Captures × Cursor) :=
  c.rest?.map fun rest =>
    let found := r.captures? rest
    let whole := (found.bind List.head?).join.getD []
    (found, c.moveOver (Text.utf8Size whole))

end Cursor

end FilterQuery
