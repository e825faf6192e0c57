import FilterQuery.Query.Outcome

/-!
# Parsing queries

A query in parentheses is a chain of parts joined by connectives, and each part is a field or again
a query in parentheses. A chain groups to the right. Every reader says what follows the text it has
consumed, after an error too, so a text can be parsed in several calls.
-/

namespace FilterQuery

namespace Query

/-- Whether a name is that of a variable. -/
def isVariable (name : List Char) : Bool :=
  ['$', '$'].isPrefixOf name

/-- The query about one name. A variable can be matched with a pattern, but not compared with
one. -/
def ofComparison (name : List Char) (value : Literal) (comparator : Option Comparator) :
    Except Fault Query :=
  let input := String.ofList name
  if isVariable name then
    match value, comparator with
    | .regex p, none => .ok (.variableMatch input p)
    | .regex _, some c => .error (.regexComparison c input)
    | value, comparator => .ok (.variableCompare input value comparator)
  else .ok (.field input value comparator)

/-- What comes after a name. A name that nothing is compared with is to be true. The comparison is
left in place when its comparator is unknown or its identifier cannot be read. -/
def readComparison (name cs : List Char) : Outcome cs :=
  match h : Token.comparison? cs with
  | none =>
    .settle (ofComparison name (.boolean true) none) cs (List.suffix_refl cs)
  | some (c, rest) =>
    match Token.comparator c.comparator, c.value.literal with
    | .error f, _ => .settle (.error f) cs (List.suffix_refl cs)
    | .ok _, .error (.invalidObjectId l e p) =>
      ⟨.error (.invalidObjectId l e p), cs, List.suffix_refl cs⟩
    | .ok _, .error e => ⟨.error e, rest, Token.suffix_of_comparison? h⟩
    | .ok comparator, .ok value =>
      .settle (ofComparison name value comparator) rest (Token.suffix_of_comparison? h)

/-- The field at the head of a text, if a name stands there. -/
def readField? (cs : List Char) : Option (Outcome cs) :=
  match h : Token.name? cs with
  | none => none
  | some (name, rest) => some ((readComparison name rest).extend (Token.suffix_of_name? h))

theorem toPair_readComparison (name cs : List Char) :
    (readComparison name cs).toPair =
      match Token.comparison? cs with
      | none => ((ofComparison name (.boolean true) none).mapError (.ofFault cs), cs)
      | some (c, rest) =>
        match Token.comparator c.comparator, c.value.literal with
        | .error f, _ => (.error (.ofFault cs f), cs)
        | .ok _, .error (.invalidObjectId l e p) => (.error (.invalidObjectId l e p), cs)
        | .ok _, .error e => (.error e, rest)
        | .ok comparator, .ok value =>
          ((ofComparison name value comparator).mapError (.ofFault rest), rest) := by
  unfold readComparison
  split
  · rename_i h
    simp [h]
  · rename_i c rest h
    simp only [h]
    split <;> rfl

theorem map_toPair_readField? (cs : List Char) :
    (readField? cs).map Outcome.toPair =
      (Token.name? cs).map fun (name, rest) => (readComparison name rest).toPair := by
  unfold readField?
  split
  · rename_i h
    simp [h]
  · rename_i name rest h
    simp [h]

mutual

/-- A chain in parentheses. -/
def readGroup (cs : List Char) : Outcome cs :=
  match cs with
  | '(' :: tail =>
    have := (Text.trimStart_suffix tail).length_le
    ((readChain (Text.trimStart tail)).extend
      ((Text.trimStart_suffix tail).trans (List.suffix_cons '(' tail))).close
  | cs => .settle (.error .missingOpen) cs (List.suffix_refl cs)
termination_by 3 * cs.length

/-- One part of a chain. -/
def readPart (cs : List Char) : Outcome cs :=
  match readField? cs with
  | some o => o
  | none => readGroup cs
termination_by 3 * cs.length + 1

/-- Parts with connectives between them. -/
def readChain (cs : List Char) : Outcome cs :=
  let o := readPart cs
  match o.continue? with
  | none => o
  | some k =>
    have := k.rest_shorter
    ((readChain k.rest).map (.join k.op k.left)).extend k.rest_suffix
termination_by 3 * cs.length + 2

end

theorem toPair_readGroup_of_ne {cs : List Char} (h : cs.head? ≠ some '(') :
    (readGroup cs).toPair = (.error (.ofFault cs .missingOpen), cs) := by
  unfold readGroup
  split
  · simp at h
  · rfl

/-- A group is its opening parenthesis, a chain and its closing parenthesis. -/
theorem toPair_readGroup_cons (tail : List Char) :
    (readGroup ('(' :: tail)).toPair =
      match (readChain (Text.trimStart tail)).toPair with
      | (.error e, rest) => (.error e, rest)
      | (.ok q, rest) =>
        match Text.trimStart rest with
        | ')' :: rest => (.ok q, rest)
        | rest => (.error (.ofFault rest .missingClose), rest) := by
  rw [readGroup]
  exact Outcome.toPair_close _

theorem toPair_readPart (cs : List Char) :
    (readPart cs).toPair =
      match readField? cs with
      | some o => o.toPair
      | none => (readGroup cs).toPair := by
  rw [readPart]
  split <;> rfl

/-- A chain is a part, or a part, a connective and a chain. -/
theorem toPair_readChain (cs : List Char) :
    (readChain cs).toPair =
      match (readPart cs).toPair with
      | (.error e, rest) => (.error e, rest)
      | (.ok left, rest) =>
        match Token.keyword? rest with
        | none => (.ok left, rest)
        | some (op, rest) => ((readChain rest).toPair.1.map (.join op left), (readChain rest).toPair.2) := by
  rw [readChain]
  dsimp only
  generalize readPart cs = o
  cases hr : o.result with
  | error e => simp [Outcome.continue?_eq_none_of_error hr, Outcome.toPair, hr]
  | ok left =>
    cases hk : Token.keyword? o.rest with
    | none => simp [Outcome.continue?_eq_none_of_keyword? hk, Outcome.toPair, hr, hk]
    | some k =>
      obtain ⟨op, rest⟩ := k
      obtain ⟨hs, hl, hc⟩ := Outcome.continue?_eq_some hr hk
      simp [hc, Outcome.toPair, Outcome.extend, Outcome.map, hr, hk]

end Query

/-- A source that is being parsed, and the part of it that has not been consumed. -/
structure Parser where
  source : List Char
  rest : List Char
  rest_suffix : rest <:+ source

namespace Parser

def ofSource (source : List Char) : Parser :=
  ⟨source, source, List.suffix_refl source⟩

/-- The number of bytes that have been consumed. -/
def position (p : Parser) : Nat :=
  Text.utf8Size p.source - Text.utf8Size p.rest

/-- Reads a query in parentheses, which has to be all that is left of the source. -/
def parse (p : Parser) : Except ParseError Query × Parser :=
  let o := (Query.readGroup p.rest).extend p.rest_suffix
  let next : Parser := ⟨p.source, o.rest, o.rest_suffix⟩
  match o.result, o.rest with
  | .ok _, c :: cs => (.error (.ofFault (c :: cs) .unexpectedInput), next)
  | result, _ => (result, next)

end Parser

namespace Query

/-- The source of what a user writes: without white space around it, in parentheses. -/
def wrap (text : String) : List Char :=
  '(' :: Text.trim text.toList ++ [')']

def parse (text : String) : Except ParseError Query :=
  (Parser.ofSource (wrap text)).parse.1

end Query

end FilterQuery
