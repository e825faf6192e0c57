import FilterQuery.Regex.Escape

/-!
# Bracketed classes

A class holds characters, ranges, escapes, named sets between colons and further classes. The
operators `&&`, `--` and `~~` combine what stands on both sides of them, from left to right.
-/

namespace FilterQuery.Regex

/-- How two parts of a class are combined. -/
inductive ClassOperator where
  | intersection
  | difference
  | symmetricDifference

def ClassOperator.apply : ClassOperator → CharSet → CharSet → CharSet
  | intersection, s, t => s.inter t
  | difference, s, t => s.diff t
  | symmetricDifference, s, t => s.symmDiff t

/-- A set and how deep classes are nested in its spelling. -/
structure ClassPart where
  set : CharSet
  nesting : Nat

/-- The members of a class that have been read: their union, how many they are, and how deep classes
are nested in them. -/
structure ClassMembers where
  set : CharSet
  count : Nat
  nesting : Nat

namespace ClassMembers

def none : ClassMembers := ⟨.empty, 0, 0⟩

def add (m : ClassMembers) (p : ClassPart) : ClassMembers :=
  ⟨m.set.union p.set, m.count + 1, max m.nesting p.nesting⟩

/-- Several members make one more level of nesting. -/
def part (m : ClassMembers) : ClassPart :=
  ⟨m.set, if 2 ≤ m.count then m.nesting + 1 else m.nesting⟩

end ClassMembers

/-- A set as it is under the flag for ignoring case. -/
def Flags.foldCase (f : Flags) (s : CharSet) : CharSet :=
  if !f.ignoreCase then s else if f.unicode then s.caseless else s.asciiCaseless

/-- A set that may be limited to ASCII, and then must have no other members. -/
def Flags.admit? (f : Flags) (s : CharSet) : Option CharSet :=
  if f.unicode || s.isAscii then some s else none

/-- An operator that waits for its right side, with its left side. -/
abbrev Waiting := Option (ClassOperator × ClassPart)

/-- The set of what is left of a waiting operator and what stands after it. -/
def settle (f : Flags) (waiting : Waiting) (p : ClassPart) : ClassPart :=
  match waiting with
  | none => p
  | some (op, left) =>
    ⟨op.apply (f.foldCase left.set) (f.foldCase p.set), max left.nesting p.nesting + 1⟩

/-- The whole class. Letter case is ignored before the complement is taken. -/
def closeClass (f : Flags) (negated : Bool) (p : ClassPart) : Option ClassPart :=
  (f.admit? ((f.foldCase p.set).withSign negated)).map fun s => ⟨s, p.nesting + 1⟩

/-- A named set such as `[:alpha:]`, read after its first bracket. -/
def readNamedSet? (f : Flags) (cs : List Char) : Option (Option CharSet × List Char) :=
  match cs with
  | ':' :: rest =>
    let (negated, rest) := match rest with
      | '^' :: rest => (true, rest)
      | _ => (false, rest)
    let (name, rest) := Text.run (· != ':') rest
    match rest with
    | ':' :: ']' :: rest => (CharSet.ofAsciiName? (String.ofList name)).map fun s =>
      (f.admit? ((f.foldCase s).withSign negated), rest)
    | _ => none
  | _ => none

/-- What a character or an escape contributes to a class. -/
def readMember (f : Flags) : List Char → Option (Escaped × List Char)
  | [] => none
  | '\\' :: rest => readEscape f rest
  | c :: rest => some (.char c, rest)

/-- The next character that counts, after a hyphen. Of a comment only the sign is passed over. -/
def peek (f : Flags) (cs : List Char) : Option Char :=
  if f.spaced then
    match cs.dropWhile Unicode.isSpace with
    | '#' :: rest => (rest.dropWhile Unicode.isSpace).head?
    | rest => rest.head?
  else cs.head?

def charRange? (f : Flags) (a b : Char) : Option CharSet :=
  if a.toNat ≤ b.toNat then f.admit? ⟨[(a.toNat, b.toNat)]⟩ else none

/-- A member or a range. A hyphen makes a range unless a bracket or another hyphen follows. -/
def readRange (f : Flags) (cs : List Char) : Option (CharSet × List Char) := do
  let (first, rest) ← readMember f cs
  let rest := f.skip rest
  let alone : Option (CharSet × List Char) := match first with
    | .char c => (charRange? f c c).map fun s => (s, rest)
    | .set s => some (s, rest)
    | .assertion _ => none
  match rest with
  | '-' :: tail =>
    if peek f tail = some ']' ∨ peek f tail = some '-' then alone
    else
      let (last, rest) ← readMember f (f.skip tail)
      match first, last with
      | .char a, .char b => (charRange? f a b).map fun s => (s, rest)
      | _, _ => none
  | _ => alone

/-- The hyphens at the start of a class, which stand for themselves. -/
def readHyphens (f : Flags) : Nat → ClassMembers → List Char → ClassMembers × List Char
  | 0, m, cs => (m, cs)
  | fuel + 1, m, cs =>
    match cs with
    | '-' :: rest => readHyphens f fuel (m.add ⟨.single '-', 0⟩) (f.skip rest)
    | _ => (m, cs)

/-- The start of a class, after its bracket, and then the members. A closing bracket in the first
place stands for itself. -/
def readOpening (f : Flags)
    (members : Bool → Waiting → ClassMembers → List Char → Option (ClassPart × List Char))
    (cs : List Char) : Option (ClassPart × List Char) :=
  let (negated, cs) := match f.skip cs with
    | '^' :: rest => (true, f.skip rest)
    | rest => (false, rest)
  let (m, cs) := readHyphens f cs.length .none cs
  match cs with
  | ']' :: rest =>
    if m.count = 0 then members negated none (m.add ⟨.single ']', 0⟩) (f.skip rest)
    else members negated none m cs
  | _ => members negated none m cs

/-- The members of a class up to its closing bracket. -/
def readMembers (f : Flags) :
    Nat → Bool → Waiting → ClassMembers → List Char → Option (ClassPart × List Char)
  | 0, _, _, _, _ => none
  | fuel + 1, negated, waiting, m, cs => do
    let operator (op : ClassOperator) (rest : List Char) :=
      readMembers f fuel negated (some (op, settle f waiting m.part)) .none rest
    match f.skip cs with
    | [] => none
    | '[' :: rest =>
      match readNamedSet? f rest with
      | some (s, rest) => readMembers f fuel negated waiting (m.add ⟨← s, 0⟩) rest
      | none =>
        let (p, rest) ← readOpening f (readMembers f fuel) rest
        readMembers f fuel negated waiting (m.add p) rest
    | ']' :: rest => some (← closeClass f negated (settle f waiting m.part), rest)
    | '&' :: '&' :: rest => operator .intersection rest
    | '-' :: '-' :: rest => operator .difference rest
    | '~' :: '~' :: rest => operator .symmetricDifference rest
    | cs =>
      let (s, rest) ← readRange f cs
      readMembers f fuel negated waiting (m.add ⟨s, 0⟩) rest

/-- A class, read after its opening bracket. -/
def readClass (f : Flags) (cs : List Char) : Option (ClassPart × List Char) :=
  readOpening f (readMembers f (cs.length + 1)) cs

end FilterQuery.Regex
