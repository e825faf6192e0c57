import FilterQuery.Pattern.Matcher

/-!
# Patterns

A pattern is given by its source and a flag for ignoring case. The source can be compiled, and what
it is compiled to is not too big.
-/

namespace FilterQuery

/-- The matcher of a source, if there is one and it is not too big. -/
def Pattern.compile? (ignoreCase : Bool) (source : String) : Option Pattern.Matcher :=
  (Pattern.Matcher.ofSource? ignoreCase source.toList).filter Pattern.Matcher.fits

structure Pattern where
  source : String
  ignoreCase : Bool
  compiles : (Pattern.compile? ignoreCase source).isSome
deriving DecidableEq

namespace Pattern

/-- The pattern of a source, if the source can be compiled. -/
def ofSource? (source : String) (ignoreCase : Bool) : Option Pattern :=
  if h : (compile? ignoreCase source).isSome then some ⟨source, ignoreCase, h⟩ else none

def matcher (p : Pattern) : Matcher :=
  (Matcher.ofSource? p.ignoreCase p.source.toList).get
    (Option.isSome_of_isSome_filter _ _ p.compiles)

/-- Whether the pattern matches somewhere in a text. -/
def isMatch (p : Pattern) (text : String) : Bool :=
  p.matcher.isMatch text.toList

/-- The letters of the flags that are on. -/
def options (p : Pattern) : String :=
  if p.ignoreCase then "i" else ""

def escapeSlashes (cs : List Char) : List Char :=
  cs.flatMap fun c => if c = '/' then ['\\', '/'] else [c]

/-- Takes the backslash away from each slash that follows one. -/
def unescapeSlashes : List Char → List Char
  | '\\' :: '/' :: rest => '/' :: unescapeSlashes rest
  | c :: rest => c :: unescapeSlashes rest
  | [] => []

/-- The literal form: the source between slashes, then the flags. -/
def text (p : Pattern) : List Char :=
  '/' :: escapeSlashes p.source.toList ++ '/' :: p.options.toList

end Pattern

end FilterQuery
