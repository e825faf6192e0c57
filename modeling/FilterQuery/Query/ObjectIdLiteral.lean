import FilterQuery.ObjectId
import FilterQuery.Query.ParseError
import FilterQuery.Text.Basic

/-!
# Identifier literals

An identifier is written in a query as an object with the one key `$oid`. White space may stand in
four places of the object. Any white space separates the parts, but the object can be read only if
it is all white space of JSON; the first other one is reported.
-/

namespace FilterQuery

/-- The parts of an object that are free: the white space after the brace, after the key, after the
colon and after the value, and the digits. -/
structure ObjectIdLiteral where
  afterBrace : List Char
  afterKey : List Char
  afterColon : List Char
  afterValue : List Char
  digits : List Char
  digits_hex : digits.all ObjectId.isHexDigit
  digits_length : digits.length = 24

namespace ObjectIdLiteral

def keyText : List Char := ['"', '$', 'o', 'i', 'd', '"']

/-- The object as it is written. -/
def text (l : ObjectIdLiteral) : List Char :=
  '\x7b' :: l.afterBrace ++ keyText ++ l.afterKey ++ ':' :: l.afterColon ++ '"' :: l.digits ++
    '"' :: l.afterValue ++ ['\x7d']

def isJsonSpace (c : Char) : Bool :=
  c == ' ' || c == '\t' || c == '\n' || c == '\r'

/-- The place of the character after a text. -/
def placeAfter (cs : List Char) : Place :=
  ⟨1 + cs.count '\n', 1 + Text.utf8Size (cs.reverse.takeWhile (· != '\n')).reverse⟩

/-- Each run of white space with what comes before it and what has to follow. -/
def gaps (l : ObjectIdLiteral) : List (List Char × List Char × Expected) :=
  [(['\x7b'], l.afterBrace, .key), (keyText, l.afterKey, .colon), ([':'], l.afterColon, .value),
    ('"' :: l.digits ++ ['"'], l.afterValue, .close)]

/-- The first character of the gaps that is no white space of JSON. -/
def firstStray (before : List Char) :
    List (List Char × List Char × Expected) → Option (Expected × Place)
  | [] => none
  | (part, gap, expected) :: rest =>
    if gap.all isJsonSpace then firstStray (before ++ part ++ gap) rest
    else some (expected, placeAfter (before ++ part ++ gap.takeWhile isJsonSpace))

/-- The identifier, if all white space is white space of JSON. -/
def decode (l : ObjectIdLiteral) : Except ParseError ObjectId :=
  match firstStray [] l.gaps with
  | some (expected, place) => .error (.invalidObjectId (String.ofList l.text) expected place)
  | none => .ok (ObjectId.ofDigits l.digits l.digits_length)

/-- What follows a given character. -/
def after (c : Char) : List Char → Option (List Char)
  | d :: rest => if d = c then some rest else none
  | [] => none

def read? (cs : List Char) : Option (ObjectIdLiteral × List Char) := do
  let cs ← after '\x7b' cs
  let (afterBrace, cs) := Text.run Unicode.isSpace cs
  let cs ← keyText.isPrefixOf? cs
  let (afterKey, cs) := Text.run Unicode.isSpace cs
  let cs ← after ':' cs
  let (afterColon, cs) := Text.run Unicode.isSpace cs
  let cs ← after '"' cs
  let digits := cs.take 24
  let cs ← after '"' (cs.drop 24)
  let (afterValue, cs) := Text.run Unicode.isSpace cs
  let cs ← after '\x7d' cs
  if h : digits.all ObjectId.isHexDigit ∧ digits.length = 24 then
    some (⟨afterBrace, afterKey, afterColon, afterValue, digits, h.1, h.2⟩, cs)
  else none

end ObjectIdLiteral

end FilterQuery
