import FilterQuery.Double.Rounding
import FilterQuery.Query.Literal

/-!
# From value texts to literals

The text of a value says of which kind it is. A text between slashes is a pattern; `true`, `yes`,
`false` and `no` are truth values; a quoted text is a date if it reads as one and a string
otherwise; another text with a star is a wildcard, and what is left is a string.
-/

namespace FilterQuery.Literal

/-- The finite number whose numeral takes up the whole text. -/
def readNumber? (cs : List Char) : Option Double :=
  match Decimal.read? cs with
  | some d =>
    let x := Double.ofDecimal d
    if x.isFinite then some x else none
  | none => none

/-- The characters that a wildcard has to escape. -/
def isSpecial (c : Char) : Bool :=
  ".+?=^!:$\x7b\x7d()|[]/\\".toList.contains c

/-- A star stands for any text within a line, and every other character for itself. -/
def wildcardChar (c : Char) : List Char :=
  if c = '*' then ['.', '*'] else if isSpecial c then ['\\', c] else [c]

/-- The source of the pattern that a wildcard stands for. -/
def wildcardSource (cs : List Char) : List Char :=
  '^' :: cs.flatMap wildcardChar ++ ['$']

/-- The source of a pattern literal: the text after the first slash, without one slash at its end,
and with slashes unescaped. -/
def regexSource (cs : List Char) : List Char :=
  Pattern.unescapeSlashes (if cs.getLast? = some '/' then cs.dropLast else cs)

def isQuote (c : Char) : Bool :=
  c == '"' || c == '\''

/-- Takes away a quote at the end. -/
def unquoteEnd (cs : List Char) : List Char :=
  if cs.getLast?.any isQuote then cs.dropLast else cs

/-- The pattern of a source; the source itself when it is none. -/
def ofSource (source : List Char) (ignoreCase : Bool) : Except String Literal :=
  let s := String.ofList source
  match Pattern.ofSource? s ignoreCase with
  | some p => .ok (regex p)
  | none => .error s

/-- The literal that a text without quotes or slashes stands for. -/
def ofBare (cs : List Char) : Except String Literal :=
  if cs = ['t', 'r', 'u', 'e'] ∨ cs = ['y', 'e', 's'] then .ok (boolean true)
  else if cs = ['f', 'a', 'l', 's', 'e'] ∨ cs = ['n', 'o'] then .ok (boolean false)
  else if cs.contains '*' then ofSource (wildcardSource cs) false
  else .ok (string (String.ofList cs))

def ofQuoted (cs : List Char) : Literal :=
  match Instant.read? cs with
  | some t => date t
  | none => string (String.ofList cs)

/-- The literal of a value's text. A pattern whose source cannot be read is refused. -/
def ofText (ignoreCase : Bool) (cs : List Char) : Except String Literal :=
  match cs with
  | [] => ofBare []
  | c :: rest =>
    if c = '/' then ofSource (regexSource rest) ignoreCase
    else if isQuote c then .ok (ofQuoted (unquoteEnd rest))
    else ofBare cs

end FilterQuery.Literal
