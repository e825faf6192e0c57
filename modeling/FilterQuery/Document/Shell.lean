import FilterQuery.Document.Basic
import FilterQuery.Double.Numeral
import FilterQuery.Text.Layout
import FilterQuery.Text.Quoted

/-!
# Documents in shell syntax

In the syntax of a database shell, dates and identifiers are calls, patterns are literals, and keys
that look like identifiers stand without quotes.
-/

namespace FilterQuery.Shell

/-- Numbers are always written without an exponent, and of two equally good digits the greater is
taken. -/
def numeral : Double.NumeralStyle where
  tie := .up
  positional _ := true
  pointZero := false

def numberText (x : Double) : List Char :=
  if x.isNaN then "NaN".toList
  else if x.isInfinite then (if x.negative then "-Infinity" else "Infinity").toList
  else x.text numeral

def isKeyStart (c : Char) : Bool :=
  c.isAlpha || c == '_' || c == '$'

/-- Whether a key is written without quotes: it is made of ASCII letters, digits, `_` and `$`, and
does not start with a digit. -/
def isBareKey : List Char → Bool
  | [] => false
  | c :: rest => isKeyStart c && rest.all fun c => isKeyStart c || c.isDigit

def keyText (key : String) : List Char :=
  if isBareKey key.toList then key.toList else Text.quoted key.toList

/-- A call with one text as its argument. -/
def call (name : String) (argument : List Char) : List Char :=
  name.toList ++ '(' :: '"' :: argument ++ ['"', ')']

mutual

/-- The text of a value that stands within `depth` brackets. -/
def print (gap : Text.Break) (depth : Nat) : Value → List Char
  | .boolean b => (if b then "true" else "false").toList
  | .double x => numberText x
  | .string s => Text.quoted s.toList
  | .regex p => p.text
  | .date t => call "ISODate" t.text
  | .objectId id => call "ObjectId" id.hexChars
  | .array items => Text.enclose '[' ']' gap depth (printItems gap (depth + 1) items)
  | .document entries =>
    Text.enclose '\x7b' '\x7d' gap depth (printEntries gap (depth + 1) entries)

def printItems (gap : Text.Break) (depth : Nat) : List Value → List (List Char)
  | [] => []
  | v :: rest => print gap depth v :: printItems gap depth rest

def printEntries (gap : Text.Break) (depth : Nat) : List (String × Value) → List (List Char)
  | [] => []
  | (key, v) :: rest =>
    (keyText key ++ ':' :: ' ' :: print gap depth v) :: printEntries gap depth rest

end

def compact (d : Document) : String :=
  String.ofList (print .space 0 d.toValue)

def pretty (d : Document) : String :=
  String.ofList (print .line 0 d.toValue)

end FilterQuery.Shell
