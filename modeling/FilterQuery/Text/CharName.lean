import FilterQuery.Text.Quoted
import FilterQuery.Unicode.Category
import FilterQuery.Unicode.Grapheme
import FilterQuery.Unicode.Ignorable
import FilterQuery.Unicode.Recent

/-!
# Characters in messages

A message shows a character in single quotes. Characters without a visible form of their own are
shown by their code point.
-/

namespace FilterQuery.Text

/-- The grapheme extenders, but for the two halfwidth sound marks, which have a form of their
own. -/
def isExtender (c : Char) : Bool :=
  (Unicode.graphemeExtendTable.contains c || Unicode.recentExtendTable.contains c) &&
    !(c == '\uFF9E' || c == '\uFF9F')

/-- Controls, format characters, separators, private use, and unassigned code points; the plain
space is the one separator that counts as visible. -/
def isInvisible (c : Char) : Bool :=
  c != ' ' && !Unicode.recentTable.contains c &&
    ["Cc", "Cf", "Cs", "Co", "Cn", "Zl", "Zp", "Zs"].contains (Unicode.category c)

/-- Whether `c` is shown by its code point. -/
def isHidden (c : Char) : Bool :=
  isExtender c || Unicode.ignorableTable.contains c || isInvisible c

def hexDigits (n : Nat) : List Char :=
  (Nat.toDigits 16 n)

/-- The form of `c` between the quotes. -/
def charName (c : Char) : List Char :=
  if c = '\x00' then ['\\', '0']
  else if c = '\t' then ['\\', 't']
  else if c = '\r' then ['\\', 'r']
  else if c = '\n' then ['\\', 'n']
  else if c = '\'' then ['\\', '\'']
  else if c = '\\' then ['\\', '\\']
  else if isHidden c then
    ['\\', 'u', '\x7b'] ++ hexDigits c.toNat ++ ['\x7d']
  else [c]

def quotedChar (c : Char) : List Char :=
  '\'' :: charName c ++ ['\'']

end FilterQuery.Text
