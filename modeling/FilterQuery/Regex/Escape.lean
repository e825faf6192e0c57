import FilterQuery.Regex.Basic
import FilterQuery.Regex.Flags
import FilterQuery.Regex.NamedSet

/-!
# Escapes

A backslash in a regular expression gives a character, a set of characters or a condition on the
position. Letters and digits without a meaning are refused.
-/

namespace FilterQuery.Regex

/-- What an escape stands for. -/
inductive Escaped where
  | char (c : Char)
  | set (s : CharSet)
  | assertion (a : Assertion)

def isHexDigit (c : Char) : Bool :=
  c.isDigit || ('a' ≤ c && c ≤ 'f') || ('A' ≤ c && c ≤ 'F')

/-- The character with a given code point, if there is one. -/
def charOfCode? (n : Nat) : Option Char :=
  if h : n.isValidChar then some (Char.ofNatAux n h) else none

/-- Hexadecimal digits, of a given number. -/
def readHexDigits (f : Flags) : Nat → List Char → Option (List Char × List Char)
  | 0, cs => some ([], cs)
  | _ + 1, [] => none
  | n + 1, c :: rest =>
    if isHexDigit c then
      (readHexDigits f n (f.skip rest)).map fun (ds, rest) => (c :: ds, rest)
    else none

/-- The text up to a closing brace, of which at most `fuel` characters are read. -/
def readBraced (f : Flags) : Nat → List Char → Option (List Char × List Char)
  | 0, _ => none
  | fuel + 1, cs =>
    match f.skip cs with
    | [] => none
    | '\x7d' :: rest => some ([], rest)
    | c :: rest => (readBraced f fuel rest).map fun (ds, rest) => (c :: ds, rest)

/-- A code point, written with `width` hexadecimal digits or in braces. Where sets are limited to
ASCII, two digits stand for a byte and not for a character. -/
def readCode (f : Flags) (width : Nat) (cs : List Char) : Option (Char × List Char) := do
  match f.skip cs with
  | '\x7b' :: rest =>
    let (ds, rest) ← readBraced f (rest.length + 1) rest
    if ds = [] ∨ ¬ds.all isHexDigit then none
    else some (← charOfCode? (Unicode.hexNumber ds), rest)
  | rest =>
    let (ds, rest) ← readHexDigits f width rest
    let n := Unicode.hexNumber ds
    if width = 2 ∧ !f.unicode ∧ 0x80 ≤ n then none else some (← charOfCode? n, rest)

/-- What stands before and after the first place of a mark. -/
def splitAtMark? (mark : List Char) : List Char → Option (List Char × List Char)
  | [] => none
  | c :: rest =>
    if mark.isPrefixOf (c :: rest) then some ([], (c :: rest).drop mark.length)
    else (splitAtMark? mark rest).map fun (before, after) => (c :: before, after)

/-- The set of a property that is given by a name or by a name and a value, and whether the value is
denied. -/
def propertySet? (cs : List Char) : Option (CharSet × Bool) :=
  match splitAtMark? ['!', '='] cs with
  | some (property, value) => (CharSet.ofPropertyValue? property value).map fun s => (s, true)
  | none =>
    match (splitAtMark? [':'] cs).or (splitAtMark? ['='] cs) with
    | some (property, value) => (CharSet.ofPropertyValue? property value).map fun s => (s, false)
    | none => (CharSet.ofPropertyName? cs).map fun s => (s, false)

/-- A property, read after its letter. Letter case is ignored before the complement is taken. -/
def readProperty (f : Flags) (negated : Bool) (cs : List Char) : Option (CharSet × List Char) := do
  if !f.unicode then none
  let (name, rest) ← match f.skip cs with
    | [] | '\\' :: _ => none
    | '\x7b' :: rest => readBraced f (rest.length + 1) rest
    | c :: rest => some ([c], rest)
  let (s, denied) ← propertySet? name
  let s := if f.ignoreCase then s.caseless else s
  some (s.withSign (negated != denied), rest)

/-- The set of a letter such as `d` for digits, or its complement. Sets that are limited to ASCII
have no complement. -/
def classSet? (f : Flags) (wide ascii : CharSet) (negated : Bool) : Option CharSet :=
  if f.unicode then some (wide.withSign negated)
  else if negated then none
  else some ascii

def isEdgeLetter (c : Char) : Bool :=
  c.isAlpha || c == '-'

/-- A word edge, read after its letter, which may be followed by a kind of edge in braces. -/
def readWordEdge (f : Flags) (cs : List Char) : Option (WordEdge × List Char) :=
  match cs with
  | '\x7b' :: rest =>
    match f.skip rest with
    | [] => none
    | c :: _ =>
      if isEdgeLetter c then do
        let (name, rest) ← readBraced f (rest.length + 1) rest
        match String.ofList name with
        | "start" => some (.start, rest)
        | "end" => some (.stop, rest)
        | "start-half" => some (.startHalf, rest)
        | "end-half" => some (.stopHalf, rest)
        | _ => none
      else some (.edge, cs)
  | _ => some (.edge, cs)

/-- An escape, read after its backslash. -/
def readEscape (f : Flags) : List Char → Option (Escaped × List Char)
  | [] => none
  | c :: rest =>
    let char (d : Char) := some (Escaped.char d, rest)
    let set (s : Option CharSet) := s.map fun s => (Escaped.set s, rest)
    let word (k : WordEdge) := Escaped.assertion (.word k !f.unicode)
    match c with
    | 'x' => (readCode f 2 rest).map fun (d, rest) => (.char d, rest)
    | 'u' => (readCode f 4 rest).map fun (d, rest) => (.char d, rest)
    | 'U' => (readCode f 8 rest).map fun (d, rest) => (.char d, rest)
    | 'p' => (readProperty f false rest).map fun (s, rest) => (.set s, rest)
    | 'P' => (readProperty f true rest).map fun (s, rest) => (.set s, rest)
    | 'd' => set (classSet? f .digit .asciiDigit false)
    | 'D' => set (classSet? f .digit .asciiDigit true)
    | 's' => set (classSet? f .space .asciiSpace false)
    | 'S' => set (classSet? f .space .asciiSpace true)
    | 'w' => set (classSet? f .word .asciiWord false)
    | 'W' => set (classSet? f .word .asciiWord true)
    | 'a' => char '\x07'
    | 'f' => char '\x0c'
    | 't' => char '\t'
    | 'n' => char '\n'
    | 'r' => char '\r'
    | 'v' => char '\x0b'
    | 'A' => some (.assertion .textStart, rest)
    | 'z' => some (.assertion .textEnd, rest)
    | 'b' => (readWordEdge f rest).map fun (k, rest) => (word k, rest)
    | 'B' => some (word .noEdge, rest)
    | '<' => some (word .start, rest)
    | '>' => some (word .stop, rest)
    | _ => if c.toNat < 0x80 ∧ !c.isAlphanum then char c else none

end FilterQuery.Regex
