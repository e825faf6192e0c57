import FilterQuery.Regex.ClassReader
import FilterQuery.Text.Digits
import FilterQuery.Unicode.Alphanumeric

/-!
# Reading regular expressions

A reader takes the flags, what is known about the groups so far, and the text; it gives an
expression and the rest of the text, or nothing if the text is no regular expression.
-/

namespace FilterQuery.Regex

/-- The groups so far: how many keep their text, and the names in use. -/
structure Groups where
  count : Nat
  names : List (List Char)

def literal (f : Flags) (c : Char) : Regex :=
  set (f.foldCase (.single c)) 0

/-- The greatest bound of a repetition. -/
def maxBound : Nat := 0xFFFFFFFF

/-- Digits with white space between them, as far as the flags allow it. -/
def readSpacedDigits (f : Flags) : Nat → List Char → List Char × List Char
  | 0, cs => ([], cs)
  | fuel + 1, cs =>
    match cs with
    | c :: rest =>
      if c.isDigit then
        let (ds, rest) := readSpacedDigits f fuel (f.skip rest)
        (c :: ds, rest)
      else ([], cs)
    | [] => ([], [])

/-- A bound of a repetition, with white space around it. -/
def readBound (f : Flags) (cs : List Char) : Option (Nat × List Char) :=
  let cs := cs.dropWhile Unicode.isSpace
  let (ds, rest) := readSpacedDigits f cs.length cs
  let n := Text.digitsValue ds
  if ds = [] ∨ maxBound < n then none
  else some (n, f.skip (rest.dropWhile Unicode.isSpace))

/-- The bounds of a counted repetition, read after the opening brace, and what follows the closing
one. -/
def readBounds (f : Flags) (cs : List Char) : Option (Nat × Option Nat × List Char) := do
  let (least, rest) ← readBound f (f.skip cs)
  let (most, rest) ← match rest with
    | ',' :: rest =>
      match f.skip rest with
      | '\x7d' :: _ => some (none, f.skip rest)
      | rest => (readBound f rest).map fun (n, rest) => (some n, rest)
    | _ => some (some least, rest)
  match rest with
  | '\x7d' :: rest => if most.any (· < least) then none else some (least, most, f.skip rest)
  | _ => none

/-- Repeats the last of some items, which come last first. There must be one, and not just a change
of flags. A question mark makes the repetition prefer fewer rounds. -/
def repeatLast (f : Flags) (items : List Regex) (least : Nat) (most : Option Nat) (cs : List Char) :
    Option (List Regex × List Char) :=
  match items with
  | [] | empty :: _ => none
  | r :: items =>
    let (lazy, rest) := match cs with
      | '?' :: rest => (true, rest)
      | _ => (false, cs)
    some (repeated r least most (lazy == f.swapGreed) :: items, rest)

def isNameStart (c : Char) : Bool :=
  c == '_' || Unicode.isAlphabetic c

def isNamePart (c : Char) : Bool :=
  c == '_' || c == '.' || c == '[' || c == ']' || Unicode.isAlphanumeric c

def readGroupName (cs : List Char) : Option (List Char × List Char) :=
  match Text.run (· != '>') cs with
  | (c :: name, _ :: rest) =>
    if isNameStart c ∧ name.all isNamePart then some (c :: name, rest) else none
  | _ => none

/-- What is read of an alternative: its items with the last first, the flags and groups after it,
and the rest. -/
abbrev ReadResult := Option (Regex × Flags × Groups × List Char)

/-- The body of a group up to its closing parenthesis. Flags that were changed in the body are as
before after it. -/
def readBody (expr : Flags → Groups → List Char → ReadResult) (index : Option Nat) (outer f : Flags)
    (g : Groups) (cs : List Char) : ReadResult := do
  match ← expr f g cs with
  | (r, _, g, ')' :: rest) => some (group index r, outer, g, rest)
  | _ => none

/-- A group or a change of flags, read after its opening parenthesis. -/
def readGroup (expr : Flags → Groups → List Char → ReadResult) (f : Flags) (g : Groups)
    (cs : List Char) : ReadResult := do
  match f.skip cs with
  | '?' :: '=' :: _ | '?' :: '!' :: _ | '?' :: '<' :: '=' :: _ | '?' :: '<' :: '!' :: _ => none
  | '?' :: '<' :: rest | '?' :: 'P' :: '<' :: rest =>
    let (name, rest) ← readGroupName rest
    if g.names.contains name then none
    else readBody expr (some (g.count + 1)) f f ⟨g.count + 1, name :: g.names⟩ rest
  | '?' :: ')' :: _ => none
  | '?' :: rest =>
    match ← readFlags [] f rest with
    | (changed, ':' :: rest) => readBody expr none f changed g rest
    | (changed, rest) => some (empty, changed, g, rest.drop 1)
  | rest => readBody expr (some (g.count + 1)) f f { g with count := g.count + 1 } rest

/-- An item that is no group, read from its first character on. -/
def readItem (f : Flags) (c : Char) (rest : List Char) : Option (Regex × List Char) :=
  match c with
  | '.' =>
    if !f.unicode then none
    else if f.dotAll then some (set .all 0, rest)
    else some (set (if f.crlf then .inCrlfLine else .inLine) 0, rest)
  | '^' => some (assertion (if f.multiLine then .lineStart f.crlf else .textStart), rest)
  | '$' => some (assertion (if f.multiLine then .lineEnd f.crlf else .textEnd), rest)
  | '[' => (readClass f rest).map fun (p, rest) => (set p.set p.nesting, rest)
  | '\\' => (readEscape f rest).map fun (e, rest) =>
    match e with
    | .char d => (literal f d, rest)
    | .set s => (set s 0, rest)
    | .assertion a => (assertion a, rest)
  | _ => some (literal f c, rest)

/-- The items of a sequence up to a bar, a closing parenthesis, or the end. The items before, with
the last first, are at hand for a repetition. -/
def readSequence (group : Flags → Groups → List Char → ReadResult) :
    Nat → Flags → Groups → List Regex → List Char → ReadResult
  | 0, _, _, _, _ => none
  | fuel + 1, f, g, items, cs => do
    let repetition (least : Nat) (most : Option Nat) (rest : List Char) : ReadResult := do
      let (items, rest) ← repeatLast f items least most rest
      readSequence group fuel f g items rest
    match f.skip cs with
    | [] => some (sequence items.reverse, f, g, [])
    | c :: rest =>
      match c with
      | '|' | ')' => some (sequence items.reverse, f, g, c :: rest)
      | '?' => repetition 0 (some 1) rest
      | '*' => repetition 0 none rest
      | '+' => repetition 1 none rest
      | '\x7b' =>
        let (least, most, rest) ← readBounds f rest
        repetition least most rest
      | '(' =>
        let (r, f, g, rest) ← group f g rest
        readSequence group fuel f g (r :: items) rest
      | _ =>
        let (r, rest) ← readItem f c rest
        readSequence group fuel f g (r :: items) rest

/-- Sequences between bars. Flags that are changed in one hold in those after it. -/
def readAlternatives (group : Flags → Groups → List Char → ReadResult) :
    Nat → Flags → Groups → List Char → ReadResult
  | 0, _, _, _ => none
  | fuel + 1, f, g, cs => do
    let (r, f, g, rest) ← readSequence group (cs.length + 1) f g [] cs
    match rest with
    | '|' :: rest =>
      let (s, f, g, rest) ← readAlternatives group fuel f g rest
      some (alt r s, f, g, rest)
    | _ => some (r, f, g, rest)

/-- How deep the parts of an expression may be nested. -/
def maxNesting : Nat := 250

/-- An expression in which groups are nested less than `depth` deep. -/
def readExpr : Nat → Flags → Groups → List Char → ReadResult
  | 0, _, _, _ => none
  | depth + 1, f, g, cs => readAlternatives (readGroup (readExpr depth)) (cs.length + 1) f g cs

/-- The expression that takes up the whole text. -/
def read? (ignoreCase : Bool) (cs : List Char) : Option Regex :=
  match readExpr (maxNesting + 1) (.initial ignoreCase) ⟨0, []⟩ cs with
  | some (r, _, _, []) => if r.nesting ≤ maxNesting then some r else none
  | _ => none

end FilterQuery.Regex
