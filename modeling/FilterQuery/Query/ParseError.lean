import FilterQuery.Query.Operator
import FilterQuery.Text.Digits

/-!
# Errors in queries
-/

namespace FilterQuery

/-- How the text departs from the grammar. -/
inductive Fault where
  | missingOpen
  | missingClose
  | unexpectedInput
  | unknownComparator (token : String)
  /-- A pattern can only be matched, not compared. -/
  | regexComparison (comparator : Comparator) (input : String)
deriving DecidableEq

def Fault.message : Fault → String
  | .missingOpen => "missing opening '('"
  | .missingClose => "missing closing ')'"
  | .unexpectedInput => "unexpected input after expression"
  | .unknownComparator token => "unknown comparator `" ++ token ++ "`"
  | .regexComparison c input =>
    "comparator `" ++ c.name ++ "` cannot be used with a regular expression on " ++ input

/-- What a reader of an identifier literal expected where it found something else. -/
inductive Expected where
  | key
  | colon
  | value
  | close
deriving DecidableEq

def Expected.message : Expected → String
  | .key => "key must be a string"
  | .colon => "expected `:`"
  | .value => "expected value"
  | .close => "expected `,` or `\x7d`"

/-- A place in a text: the line, and the byte within the line, both counted from one. -/
structure Place where
  line : Nat
  column : Nat
deriving DecidableEq

def Place.message (p : Place) : String :=
  "line " ++ String.ofList (Text.digits p.line) ++ " column " ++ String.ofList (Text.digits p.column)

inductive ParseError where
  /-- The text does not follow the grammar; `near` is the beginning of what was not read. -/
  | grammar (fault : Fault) (near : String)
  /-- The source is no regular expression, where letter case counts or is ignored. -/
  | invalidPattern (source : String) (ignoreCase : Bool)
  | invalidObjectId (literal : String) (expected : Expected) (place : Place)
deriving DecidableEq

namespace ParseError

/-- How much of the rest a message shows. -/
def contextLength : Nat := 10

/-- The beginning of the rest. -/
def context (rest : List Char) : String :=
  String.ofList (rest.take contextLength)

/-- A fault that is noticed in front of `rest`. -/
def ofFault (rest : List Char) (fault : Fault) : ParseError :=
  grammar fault (context rest)

def locate (message near : String) : String :=
  message ++ " near `" ++ near ++ "`"

def reason (expected : Expected) (place : Place) : String :=
  expected.message ++ " at " ++ place.message

/-- The text of an error. For a source that is no regular expression, `explain` has the words of
the regular expressions' own reader; they depend on the source and on whether case is ignored. -/
def message (explain : String → Bool → String) : ParseError → String
  | grammar fault near => locate fault.message near
  | invalidPattern source ignoreCase =>
    "invalid regular expression /" ++ source ++ "/: " ++ explain source ignoreCase
  | invalidObjectId literal expected place =>
    "invalid object id literal `" ++ literal ++ "`: " ++ reason expected place

end ParseError

end FilterQuery
