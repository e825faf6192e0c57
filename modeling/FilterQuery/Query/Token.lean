import FilterQuery.Query.ObjectIdLiteral
import FilterQuery.Query.Reading
import FilterQuery.Unicode.Word

/-!
# Tokens

Each function here takes a token off the head of a text and gives what follows it. Names and bare
values are longest runs of their characters; quoted texts, patterns and identifier literals are
closed by their own marks, so nothing after a token has a part in it.
-/

namespace FilterQuery.Token

/-- The characters of field names. -/
def isNameChar (c : Char) : Bool :=
  c == '-' || c == '.' || Unicode.isWord c

/-- The characters of values without quotes. -/
def isBareChar (c : Char) : Bool :=
  isNameChar c || c == '*'

def isComparatorChar (c : Char) : Bool :=
  c == ':' || c == '>' || c == '<' || c == '!' || c == '='

/-- A longest run of name characters that is not empty. -/
def plainName? (cs : List Char) : Option (List Char × List Char) :=
  match Text.run isNameChar cs with
  | ([], _) => none
  | (name, rest) => some (name, rest)

/-- A field name, or two dollar signs and a name. -/
def name? : List Char → Option (List Char × List Char)
  | '$' :: '$' :: rest => (plainName? rest).map fun (name, rest) => ('$' :: '$' :: name, rest)
  | cs => plainName? cs

/-- A keyword with the white space around it. It is a whole run of word characters, whatever the
case of its letters. -/
def keyword? (cs : List Char) : Option (Connective × List Char) :=
  let (word, rest) := Text.run Unicode.isWord (Text.trimStart cs)
  (Connective.ofKeyword? word).map fun op => (op, Text.trimStart rest)

/-- The comparison that a token asks for. A colon may precede another token, and the tokens of
equality ask for none. -/
def comparator (token : List Char) : Except Fault (Option Comparator) :=
  let core := match token with
    | ':' :: c :: rest => c :: rest
    | _ => token
  if core = [] ∨ core = [':'] ∨ core = ['='] ∨ core = ['=', '='] then .ok none
  else
    match Comparator.ofToken? core with
    | some c => .ok (some c)
    | none => .error (.unknownComparator (String.ofList token))

/-- The text of a value. -/
inductive Value where
  | objectId (l : ObjectIdLiteral)
  | bare (cs : List Char)
  | quoted (quote : Char) (cs : List Char)
  | regex (cs : List Char) (ignoreCase : Bool)

/-- The text between slashes, up to the first slash without a backslash in front. A backslash takes
the next character with it, unless that is a line feed. -/
def regexBody? : List Char → Option (List Char × List Char)
  | [] => none
  | '/' :: rest => some ([], rest)
  | '\\' :: c :: rest =>
    if c = '\n' then none
    else (regexBody? rest).map fun (body, rest) => ('\\' :: c :: body, rest)
  | c :: rest =>
    if c = '\\' then none else (regexBody? rest).map fun (body, rest) => (c :: body, rest)

/-- The flag after a pattern. -/
def flag : List Char → Bool × List Char
  | 'i' :: rest => (true, rest)
  | cs => (false, cs)

/-- The text up to a closing quote. -/
def quotedBody? (quote : Char) (cs : List Char) : Option (List Char × List Char) :=
  match Text.run (· != quote) cs with
  | (body, _ :: rest) => some (body, rest)
  | (_, []) => none

/-- The text of a value, without the white space around it. -/
def valueText? (cs : List Char) : Option (Value × List Char) :=
  match cs with
  | [] => none
  | c :: rest =>
    if c = '\x7b' then (ObjectIdLiteral.read? cs).map fun (l, rest) => (.objectId l, rest)
    else if isBareChar c then some (.bare (cs.takeWhile isBareChar), cs.dropWhile isBareChar)
    else if Literal.isQuote c then (quotedBody? c rest).map fun (body, rest) => (.quoted c body, rest)
    else if c = '/' then
      (regexBody? rest).map fun (body, rest) =>
        let (ignoreCase, rest) := flag rest
        (.regex body ignoreCase, rest)
    else none

/-- A comparator and a value, with the white space between them. -/
structure Comparison where
  comparator : List Char
  value : Value

/-- A comparison at the head of a text. A value that only white space separates from what comes
before belongs to something else. -/
def comparison? (cs : List Char) : Option (Comparison × List Char) :=
  let (token, rest) := Text.run isComparatorChar (Text.trimStart cs)
  match valueText? (Text.trimStart rest) with
  | none => none
  | some (value, rest) =>
    if token = [] ∧ cs.head?.any Unicode.isSpace then none
    else some (⟨token, value⟩, Text.trimStart rest)

def Value.literal : Value → Except ParseError Literal
  | objectId l => l.decode.map .objectId
  | bare cs =>
    match Literal.readNumber? cs with
    | some x => .ok (.number x)
    | none => (Literal.ofText false cs).mapError (.invalidPattern · false)
  | quoted quote cs =>
    (Literal.ofText false (quote :: cs ++ [quote])).mapError (.invalidPattern · false)
  | regex cs ignoreCase =>
    (Literal.ofText ignoreCase ('/' :: cs ++ ['/'])).mapError (.invalidPattern · ignoreCase)

end FilterQuery.Token
