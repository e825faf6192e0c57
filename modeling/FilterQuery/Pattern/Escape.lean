import FilterQuery.Pattern.Expr
import FilterQuery.Regex.Escape

/-!
# Escapes and classes in patterns

An escape stands for a character or for a set, inside brackets and outside. A bracketed class keeps
its spelling, in which escapes are put in the form that regular expressions have for them.
-/

namespace FilterQuery.Pattern

/-- A code point of exactly `width` hexadecimal digits, or of one to eight in braces. -/
def readCode (width : Nat) (cs : List Char) : Option (Char × List Char) :=
  let charOf? (ds : List Char) := Regex.charOfCode? (Unicode.hexNumber ds)
  if (cs.take width).length = width ∧ (cs.take width).all Regex.isHexDigit then
    (charOf? (cs.take width)).map fun c => (c, cs.drop width)
  else
    match cs with
    | '\x7b' :: rest =>
      match Text.run Regex.isHexDigit rest with
      | (ds, '\x7d' :: rest) =>
        if 1 ≤ ds.length ∧ ds.length ≤ 8 then (charOf? ds).map fun c => (c, rest) else none
      | _ => none
    | _ => none

/-- The spelling of a property after its letter: one character, or any text in braces. -/
def readPropertyText : List Char → Option (List Char × List Char)
  | '\x7b' :: rest =>
    match Text.run (· != '\x7d') rest with
    | (name, _ :: rest) => some ('\x7b' :: name ++ ['\x7d'], rest)
    | (_, []) => none
  | c :: rest => some ([c], rest)
  | [] => none

/-- The escapes that have one meaning inside classes and outside, read after the backslash. Letters
without a meaning are refused; everything else stands for itself. -/
def readEscape (ignoreCase : Bool) : List Char → Option (Expr × List Char)
  | [] => none
  | c :: rest =>
    let char (d : Char) := some (Expr.literal d false, rest)
    let code (width : Nat) :=
      (readCode width rest).map fun (d, rest) => (Expr.literal d ignoreCase, rest)
    match c with
    | 'd' | 'D' | 's' | 'S' | 'w' | 'W' => some (.spelled ['\\', c] ignoreCase, rest)
    | 'h' => some (.spelled "[0-9A-Fa-f]".toList false, rest)
    | 'H' => some (.spelled "[^0-9A-Fa-f]".toList false, rest)
    | 'p' | 'P' =>
      (readPropertyText rest).map fun (name, rest) =>
        (.spelled ('\\' :: c :: name) ignoreCase, rest)
    | 'x' => code 2
    | 'u' => code 4
    | 'U' => code 8
    | 'a' => char '\x07'
    | 'b' => char '\x08'
    | 'e' => char '\x1b'
    | 'f' => char '\x0c'
    | 'n' => char '\n'
    | 'r' => char '\r'
    | 't' => char '\t'
    | 'v' => char '\x0b'
    | _ => if c.isAlpha ∧ ¬"kAzBKG".toList.contains c then none else char c

/-- The characters with a meaning of their own in classes or outside. -/
def isClassMeta (c : Char) : Bool :=
  "\\.+*?()|[]\x7b\x7d^$#&-~".toList.contains c

/-- What an escape is spelled as within a class. -/
def classSpelling : Expr → Option (List Char)
  | .literal c _ => some (if isClassMeta c then ['\\', c] else [c])
  | .spelled text _ => some text
  | _ => none

/-- The text of a class up to the bracket that closes the last of `depth` open ones. -/
def readClassFrom (ignoreCase : Bool) : Nat → Nat → List Char → Option (List Char × List Char)
  | 0, _, _ => none
  | _ + 1, _, [] => none
  | fuel + 1, depth, '\\' :: rest => do
    if rest.head?.any Char.isDigit then none
    let (e, rest) ← readEscape ignoreCase rest
    let (text, rest) ← readClassFrom ignoreCase fuel depth rest
    some ((← classSpelling e) ++ text, rest)
  | fuel + 1, depth, c :: rest =>
    if c = ']' ∧ depth ≤ 1 then some ([c], rest)
    else
      let depth := if c = '[' then depth + 1 else if c = ']' then depth - 1 else depth
      (readClassFrom ignoreCase fuel depth rest).map fun (text, rest) => (c :: text, rest)

/-- A class, read after its opening bracket. A closing bracket is a member when it comes first. -/
def readClass (ignoreCase : Bool) (cs : List Char) : Option (Expr × List Char) :=
  let (sign, cs) := match cs with
    | '^' :: rest => (['^'], rest)
    | _ => ([], cs)
  let (first, cs) := match cs with
    | ']' :: rest => ([']'], rest)
    | _ => ([], cs)
  (readClassFrom ignoreCase (cs.length + 1) 1 cs).map fun (text, rest) =>
    (.spelled ('[' :: sign ++ first ++ text) ignoreCase, rest)

end FilterQuery.Pattern
