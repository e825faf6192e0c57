import FilterQuery.Document.Shell
import FilterQuery.Query.Tree

/-!
# Rendering a query

A query text is rendered as its document, in one of two formats, or as its tree.
-/

namespace FilterQuery.Command

inductive Format where
  | json
  | shell
deriving DecidableEq

/-- Why a command gives no output. -/
inductive Error where
  | invalidQuery (e : ParseError)
  /-- The query is to be read from bytes that are not UTF-8. -/
  | invalidInput
  | noQuery
deriving DecidableEq

def Error.message (explain : String → Bool → String) : Error → String
  | .invalidQuery e => "Invalid query: " ++ e.message explain
  | .invalidInput => "IO error: stream did not contain valid UTF-8"
  | .noQuery => "No query provided. Pass it as an argument or pipe it to stdin."

/-- The query of a text that is not blank. -/
def readQuery (text : String) : Except Error Query :=
  if (Text.trim text.toList).isEmpty then .error .noQuery
  else (Query.parse text).mapError .invalidQuery

def jsonText (pretty : Bool) (j : Json) : String :=
  if pretty then j.pretty else j.compact

def documentText (format : Format) (pretty : Bool) (d : Document) : String :=
  match format with
  | .json => jsonText pretty d.toJson
  | .shell => if pretty then Shell.pretty d else Shell.compact d

def compileText (text : String) (format : Format) (pretty : Bool) : Except Error String :=
  (readQuery text).map fun q => documentText format pretty q.toDocument

def parseText (text : String) (pretty : Bool) : Except Error String :=
  (readQuery text).map fun q => jsonText pretty q.toJson

end FilterQuery.Command
