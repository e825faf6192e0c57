import FilterQuery.Command.Render

/-!
# Command-line arguments

A subcommand comes first. After it, options and at most one query come in any order. Short options
may be joined behind one dash, a value may be attached to its option, and two dashes alone end the
options. The first argument that does not fit decides the outcome.
-/

namespace FilterQuery.Command

/-- What the options and the query of a subcommand say so far. -/
structure Settings where
  pretty : Bool
  format : Option Format
  query : Option String
deriving DecidableEq

namespace Settings

def initial : Settings := ⟨false, none, none⟩

end Settings

/-- What the arguments ask for other than running a subcommand. -/
inductive Stop where
  | usage
  | help
  | version
deriving DecidableEq

def Format.ofName? : List Char → Option Format
  | ['j', 's', 'o', 'n'] => some .json
  | ['s', 'h', 'e', 'l', 'l'] => some .shell
  | _ => none

namespace Settings

def setPretty (s : Settings) : Except Stop Settings :=
  if s.pretty then .error .usage else .ok { s with pretty := true }

def setFormat (s : Settings) (name : List Char) : Except Stop Settings :=
  match s.format, Format.ofName? name with
  | none, some f => .ok { s with format := some f }
  | _, _ => .error .usage

def setQuery (s : Settings) (query : String) : Except Stop Settings :=
  match s.query with
  | none => .ok { s with query := some query }
  | some _ => .error .usage

end Settings

/-- Short options behind one dash; the flag says that the format is still to come. -/
def readShort (formats : Bool) (s : Settings) : List Char → Except Stop (Settings × Bool)
  | [] => .ok (s, false)
  | c :: rest =>
    if c = 'p' then s.setPretty.bind fun s => readShort formats s rest
    else if c = 'h' then .error .help
    else if formats ∧ c = 'f' then
      match rest with
      | [] => .ok (s, true)
      | '=' :: name => (s.setFormat name).map fun s => (s, false)
      | name => (s.setFormat name).map fun s => (s, false)
    else .error .usage

/-- A long option without its dashes; the flag says that the format is still to come. -/
def readLong (formats : Bool) (s : Settings) (cs : List Char) : Except Stop (Settings × Bool) :=
  let (name, value) := Text.run (· != '=') cs
  match String.ofList name, value with
  | "pretty", [] => s.setPretty.map fun s => (s, false)
  | "help", [] => .error .help
  | "format", [] => if formats then .ok (s, true) else .error .usage
  | "format", _ :: value =>
    if formats then (s.setFormat value).map fun s => (s, false) else .error .usage
  | _, _ => .error .usage

/-- Reads the arguments of a subcommand. With `awaiting` the next one is a format, which cannot
start with a dash. -/
def readSettings (formats : Bool) (s : Settings) (awaiting : Bool) :
    List String → Except Stop Settings
  | [] => if awaiting then .error .usage else .ok s
  | arg :: rest =>
    if awaiting then (s.setFormat arg.toList).bind fun s => readSettings formats s false rest
    else
      match arg.toList with
      | ['-', '-'] => rest.foldlM Settings.setQuery s
      | '-' :: '-' :: cs => (readLong formats s cs).bind fun (s, awaiting) =>
          readSettings formats s awaiting rest
      | '-' :: c :: cs => (readShort formats s (c :: cs)).bind fun (s, awaiting) =>
          readSettings formats s awaiting rest
      | _ => (s.setQuery arg).bind fun s => readSettings formats s false rest

inductive Subcommand where
  | compile
  | parse
deriving DecidableEq

def Subcommand.ofName? : String → Option Subcommand
  | "compile" => some .compile
  | "parse" => some .parse
  | _ => none

/-- Whether a subcommand has a choice of formats. -/
def Subcommand.formats : Subcommand → Bool
  | .compile => true
  | .parse => false

/-- Help is given on subcommands, also on `help` itself. -/
def readHelp : List String → Stop
  | [] => .help
  | [name] => if name = "help" ∨ (Subcommand.ofName? name).isSome then .help else .usage
  | _ => .usage

/-- What stands in front of a subcommand, or in place of one. -/
def readFront (arg : String) : Stop :=
  match arg.toList with
  | '-' :: 'V' :: _ => .version
  | '-' :: 'h' :: _ => .help
  | _ => if arg = "--version" then .version else if arg = "--help" then .help else .usage

/-- The subcommand that the arguments ask for, and its settings. -/
def readArguments : List String → Except Stop (Subcommand × Settings)
  | [] => .error .usage
  | "help" :: rest => .error (readHelp rest)
  | arg :: rest =>
    match Subcommand.ofName? arg with
    | some sub => (readSettings sub.formats .initial false rest).map fun s => (sub, s)
    | none => .error (readFront arg)

end FilterQuery.Command
