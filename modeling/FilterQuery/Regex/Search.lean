import FilterQuery.Regex.Position
import FilterQuery.Regex.Program

/-!
# Searching with a program

A program is run on all its threads at once, the preferred thread first. At each position no
instruction is followed twice: of two threads that arrive at one, the preferred goes on. The match
is that of the preferred thread that accepts.
-/

namespace FilterQuery.Regex

/-- The positions that were noted, by number. -/
abbrev Notes := Array (Option Nat)

/-- An instruction that is to be carried out, with what was noted on the way to it. -/
abbrev Thread := Nat × Notes

/-- The match that a program has found: where it ends, and what was noted. -/
structure Found where
  stop : Nat
  notes : Notes

/-- Follows the threads of a stack to the instructions that wait for a character or accept, which
come out in reverse order. -/
def follow (p : Program) (text : Array Char) (i : Nat) :
    Nat → List Thread → Array Bool → List Thread → Array Bool × List Thread
  | 0, _, seen, waiting => (seen, waiting)
  | _, [], seen, waiting => (seen, waiting)
  | fuel + 1, (pc, notes) :: stack, seen, waiting =>
    if seen.getD pc true then follow p text i fuel stack seen waiting
    else
      let seen := seen.setIfInBounds pc true
      match p[pc]? with
      | some (.fork first second) =>
        follow p text i fuel ((first, notes) :: (second, notes) :: stack) seen waiting
      | some (.note slot next) =>
        follow p text i fuel ((next, notes.setIfInBounds slot (some i)) :: stack) seen waiting
      | some (.assert a next) =>
        if a.holdsAt text i then follow p text i fuel ((next, notes) :: stack) seen waiting
        else follow p text i fuel stack seen waiting
      | some _ => follow p text i fuel stack seen ((pc, notes) :: waiting)
      | none => follow p text i fuel stack seen waiting

/-- Follows threads from a position. Each instruction puts at most two threads on the stack. -/
def followAll (p : Program) (text : Array Char) (i : Nat) (threads : List Thread) : List Thread :=
  (follow p text i (threads.length + 2 * p.size + 1) threads (.replicate p.size false) []).2.reverse

/-- The threads that are preferred to the first one that accepts, and the match of that one. -/
def cutAtMatch (p : Program) (i : Nat) : List Thread → List Thread × Option Found
  | [] => ([], none)
  | (pc, notes) :: rest =>
    match p[pc]? with
    | some .accept => ([], some ⟨i, notes⟩)
    | _ =>
      let (before, found) := cutAtMatch p i rest
      ((pc, notes) :: before, found)

/-- The threads that take a character. -/
def takeChar (p : Program) (c : Char) (threads : List Thread) : List Thread :=
  threads.filterMap fun (pc, notes) =>
    match p[pc]? with
    | some (.take s next) => if s.contains c then some (next, notes) else none
    | _ => none

/-- Runs threads on the characters of a text from a position on. -/
def run (p : Program) (text : Array Char) :
    List Char → Nat → List Thread → Option Found → Option Found
  | cs, i, threads, best =>
    let (threads, found) := cutAtMatch p i (followAll p text i threads)
    let best := found.or best
    match cs with
    | [] => best
    | c :: rest =>
      match takeChar p c threads with
      | [] => best
      | threads => run p text rest (i + 1) threads best

/-- A program, the number of the instruction that it starts with, and the number of the last
group. -/
structure Machine where
  program : Program
  start : Nat
  groups : Nat

/-- The preferred match at a position. -/
def Machine.search (m : Machine) (text : Array Char) (i : Nat) : Option Found :=
  run m.program text (text.toList.drop i) i [(m.start, .replicate (2 * m.groups + 2) none)] none

def machine (r : Regex) : Machine :=
  let (accept, p) := Program.emit #[] .accept
  let (start, p) := r.normal.compile accept p
  ⟨p, start, r.normal.lastGroup⟩

/-- The texts of the match at the start of a text and of each group in it. -/
def captures? (r : Regex) (text : List Char) : Option (List (Option (List Char))) :=
  (r.machine.search text.toArray 0).map fun found =>
    some (text.take found.stop) :: (List.range r.machine.groups).map fun i => do
      let start ← found.notes[2 * i + 2]?.join
      let stop ← found.notes[2 * i + 3]?.join
      some ((text.take stop).drop start)

end FilterQuery.Regex
