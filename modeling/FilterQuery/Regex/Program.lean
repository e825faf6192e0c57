import FilterQuery.Regex.Normal

/-!
# Programs

A program is a machine for finding the preferred match of an expression. Its instructions are
numbered; each says which come next. A program is written from its end to its start, so that an
expression is compiled in front of the instruction that follows it.
-/

namespace FilterQuery.Regex

inductive Instruction where
  /-- Takes a character of a set. -/
  | take (s : CharSet) (next : Nat)
  | assert (a : Assertion) (next : Nat)
  /-- Notes the position under a number. -/
  | note (slot : Nat) (next : Nat)
  /-- Goes on at either of two instructions, the first being preferred. -/
  | fork (first second : Nat)
  | accept

abbrev Program := Array Instruction

namespace Program

/-- Adds an instruction and gives its number. -/
def emit (p : Program) (i : Instruction) : Nat × Program :=
  (p.size, p.push i)

/-- A fork that takes another round or goes on. -/
def again (greedy : Bool) (round next : Nat) : Instruction :=
  if greedy then .fork round next else .fork next round

/-- What compiles a body in front of an instruction. -/
abbrev Body := Nat → Program → Nat × Program

/-- A body some number of times in a row. -/
def times (body : Body) : Nat → Body
  | 0, next, p => (next, p)
  | n + 1, next, p =>
    let (start, p) := body next p
    times body n start p

/-- A body up to some number of times, each time nested in the one before. -/
def atMost (greedy : Bool) (body : Body) (next : Nat) : Nat → Nat → Program → Nat × Program
  | 0, start, p => (start, p)
  | n + 1, start, p =>
    let (round, p) := body start p
    let (start, p) := p.emit (again greedy round next)
    atMost greedy body next n start p

/-- A loop: the number of the fork after each round, and of the first instruction of a round. -/
def loop (greedy : Bool) (body : Body) (next : Nat) (p : Program) : Nat × Nat × Program :=
  let (fork, p) := p.emit .accept
  let (round, p) := body fork p
  (fork, round, p.setIfInBounds fork (again greedy round next))

/-- A body that is repeated. A loop without a round that can match the empty text starts at its
fork; any other is entered by a fork of its own, lest an empty round be taken for the way out. -/
def repetition (mayBeEmpty : Bool) (body : Body) (least : Nat) (most : Option Nat) (greedy : Bool) :
    Body := fun next p =>
  match most with
  | some m =>
    let (start, p) := atMost greedy body next (m - least) next p
    times body least start p
  | none =>
    let (fork, round, p) := loop greedy body next p
    if 0 < least then times body (least - 1) round p
    else if mayBeEmpty then p.emit (again greedy round next)
    else (fork, p)

end Program

/-- The program of an expression in front of an instruction, and where it starts. -/
def Normal.compile : Normal → Program.Body
  | empty => fun next p => (next, p)
  | literal cs => fun next p =>
    cs.foldr (fun c (next, p) => p.emit (.take (.single c) next)) (next, p)
  | set s => fun next p => p.emit (.take s next)
  | assertion a => fun next p => p.emit (.assert a next)
  | capture i r => fun next p =>
    let (stop, p) := p.emit (.note (2 * i + 1) next)
    let (start, p) := r.compile stop p
    p.emit (.note (2 * i) start)
  | seq r s => fun next p =>
    let (start, p) := s.compile next p
    r.compile start p
  | alt r s => fun next p =>
    let (first, p) := r.compile next p
    let (second, p) := s.compile next p
    p.emit (.fork first second)
  | repeated r least most greedy =>
    Program.repetition (r.minLength.all (· = 0)) r.compile least most greedy

end FilterQuery.Regex
