import FilterQuery.Command.Response

/-!
# The program

The standard input is read only if the arguments hold no query, and not from a terminal.
-/

namespace FilterQuery

partial def readAll (stream : IO.FS.Stream) (read : ByteArray) : IO ByteArray := do
  let chunk ← stream.read 65536
  if chunk.isEmpty then return read else readAll stream (read ++ chunk)

/-- The standard input, as far as a query has to come from it. -/
def readInput (args : List String) : IO Command.Input := do
  let stdin ← IO.getStdin
  if ← stdin.isTty then return .terminal
  if Command.readsInput args then return .piped (← readAll stdin .empty)
  return .piped .empty

/-- Says nothing where the words would be others' own. -/
def silent : Command.Wording :=
  ⟨fun _ _ => "", fun _ => "", fun _ => ""⟩

end FilterQuery

def main (args : List String) : IO UInt32 := do
  let response := FilterQuery.Command.respond FilterQuery.silent args (← FilterQuery.readInput args)
  (← IO.getStdout).putStr response.stdout
  (← IO.getStderr).putStr response.stderr
  return response.code.toUInt32
