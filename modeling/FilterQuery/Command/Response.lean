import FilterQuery.Command.Arguments

/-!
# The response to a command line

A command line is answered with an exit code and two texts. The query is taken from the arguments,
or else from the standard input.
-/

namespace FilterQuery.Command

structure Response where
  code : Nat
  stdout : String
  stderr : String
deriving DecidableEq

def versionText : String := "msq 0.2.0\n"

/-- The texts that are not this program's own. -/
structure Wording where
  /-- What is wrong with a source that is no regular expression, where letter case counts or is
  ignored. -/
  explain : String → Bool → String
  /-- The help that the arguments ask for. -/
  help : List String → String
  /-- What is wrong with the arguments. -/
  usage : List String → String

/-- What the standard input is connected to. Whatever is piped can be read. -/
inductive Input where
  | terminal
  | piped (bytes : ByteArray)

/-- The query given as an argument, or the whole input. Nothing is read from a terminal. -/
def queryText (s : Settings) (stdin : Input) : Except Error String :=
  match s.query, stdin with
  | some text, _ => .ok text
  | none, .terminal => .error .noQuery
  | none, .piped bytes =>
    match String.fromUTF8? bytes with
    | some text => .ok text
    | none => .error .invalidInput

/-- The output of a subcommand. Documents are rendered as JSON unless another format is asked
for. -/
def output (sub : Subcommand) (s : Settings) (stdin : Input) : Except Error String :=
  (queryText s stdin).bind fun text =>
    match sub with
    | .compile => compileText text (s.format.getD .json) s.pretty
    | .parse => parseText text s.pretty

/-- Whether the query has to come from the standard input. -/
def readsInput (args : List String) : Bool :=
  match readArguments args with
  | .ok (_, s) => s.query.isNone
  | .error _ => false

/-- The response: code 0 with the output, 1 with the message of an error, and 2 when the arguments
are wrong. -/
def respond (w : Wording) (args : List String) (stdin : Input) : Response :=
  match readArguments args with
  | .error .version => ⟨0, versionText, ""⟩
  | .error .help => ⟨0, w.help args, ""⟩
  | .error .usage => ⟨2, "", w.usage args⟩
  | .ok (sub, s) =>
    match output sub s stdin with
    | .ok text => ⟨0, text ++ "\n", ""⟩
    | .error e => ⟨1, "", e.message w.explain ++ "\n"⟩

end FilterQuery.Command
