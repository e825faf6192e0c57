import FilterQuery.Regex.Basic

/-!
# Normal forms

The normal form of an expression has no part that stands for nothing, joins characters in a row to
one text and alternative characters to one set, and takes out what all alternatives start with.
Groups that are repeated no times are gone from it. It decides which groups a match reports, and
how much room the expression takes up.
-/

namespace FilterQuery.Regex

inductive Normal where
  | empty
  | literal (cs : List Char)
  | set (s : CharSet)
  | assertion (a : Assertion)
  | capture (index : Nat) (body : Normal)
  | repeated (body : Normal) (least : Nat) (most : Option Nat) (greedy : Bool)
  | seq (first second : Normal)
  | alt (first second : Normal)
deriving DecidableEq

namespace Normal

def items : Normal → List Normal
  | empty => []
  | seq r s => r :: s.items
  | r => [r]

def branches : Normal → List Normal
  | alt r s => r :: s.branches
  | r => [r]

/-- The least number of characters that are taken up, unless a part matches nothing at all. -/
def minLength : Normal → Option Nat
  | empty | assertion _ => some 0
  | literal cs => some cs.length
  | set s => if s.ranges = [] then none else some 1
  | capture _ r => r.minLength
  | repeated r least _ _ => r.minLength.map fun n => least * n
  | seq r s => r.minLength.bind fun m => s.minLength.map fun n => m + n
  | alt r s => r.minLength.bind fun m => s.minLength.map fun n => min m n

/-- Whether the expression can only match the empty text. -/
def isZeroWidth : Normal → Bool
  | empty | assertion _ => true
  | literal _ | set _ => false
  | capture _ r => r.isZeroWidth
  | repeated r _ most _ => most.isSome && r.isZeroWidth
  | seq r s | alt r s => r.isZeroWidth && s.isZeroWidth

/-- Whether every match starts with a given condition. -/
def startsWith (a : Assertion) : Normal → Bool
  | empty | literal _ | set _ => false
  | assertion b => a = b
  | capture _ r => r.startsWith a
  | repeated r least _ _ => least != 0 && r.startsWith a
  | seq r s => r.startsWith a || (r.isZeroWidth && s.startsWith a)
  | alt r s => r.startsWith a && s.startsWith a

/-- Whether every match ends with a given condition. -/
def endsWith (a : Assertion) : Normal → Bool
  | empty | literal _ | set _ => false
  | assertion b => a = b
  | capture _ r => r.endsWith a
  | repeated r least _ _ => least != 0 && r.endsWith a
  | seq r s => s.endsWith a || (s.isZeroWidth && r.endsWith a)
  | alt r s => r.endsWith a && s.endsWith a

/-- The number of the last group, zero if there is none. -/
def lastGroup : Normal → Nat
  | capture i r => max i r.lastGroup
  | repeated r _ _ _ => r.lastGroup
  | seq r s | alt r s => max r.lastGroup s.lastGroup
  | _ => 0

/-- A set of one character is a text. -/
def ofSet (s : CharSet) : Normal :=
  match s.single? with
  | some c => literal [c]
  | none => set s

/-- Joins texts that follow each other. -/
def joinLiterals : List Normal → List Normal
  | [] => []
  | literal cs :: rest =>
    match joinLiterals rest with
    | literal ds :: rest => literal (cs ++ ds) :: rest
    | rest => literal cs :: rest
  | r :: rest => r :: joinLiterals rest

/-- The sequence of parts that are no sequences themselves. -/
def ofItems : List Normal → Normal
  | [] => empty
  | [r] => r
  | r :: rest => seq r (ofItems rest)

def sequence (rs : List Normal) : Normal :=
  ofItems (joinLiterals (rs.flatMap items))

/-- A repetition. Of what matches the empty text alone, one round is as good as many. -/
def repetition (r : Normal) (least : Nat) (most : Option Nat) (greedy : Bool) : Normal :=
  let (least, most) :=
    if r.isZeroWidth then (min least 1, some (min (most.getD 1) 1)) else (least, most)
  if most = some 0 then empty
  else if least = 1 ∧ most = some 1 then r
  else repeated r least most greedy

/-- The set of the characters of which each of some expressions is one. -/
def charsOf? : List Normal → Option CharSet
  | [] => some .empty
  | literal [c] :: rest => (charsOf? rest).map (CharSet.single c).union
  | _ => none

/-- The union of some expressions that are sets. -/
def setOf? : List Normal → Option CharSet
  | [] => some .empty
  | set s :: rest => (setOf? rest).map s.union
  | _ => none

/-- What two lists start with. -/
def commonStart : List Normal → List Normal → List Normal
  | r :: rs, s :: ss => if r = s then r :: commonStart rs ss else []
  | _, _ => []

/-- What all of some sequences start with, of at least two parts each. -/
def sharedStart (rs : List Normal) : List Normal :=
  match rs.map items with
  | [] => []
  | first :: rest =>
    if (first :: rest).any (·.length < 2) then [] else rest.foldl commonStart first

def ofBranches (r : Normal) : List Normal → Normal
  | [] => r
  | s :: rest => alt r (ofBranches s rest)

/-- The choice between some expressions. At most `fuel` times a common start is taken out. -/
def choiceWithin : Nat → List Normal → Normal
  | 0, rs => match rs with
    | [] => set .empty
    | r :: rest => ofBranches r rest
  | fuel + 1, rs =>
    match rs.flatMap branches with
    | [] => set .empty
    | [r] => r
    | r :: rest =>
      match (charsOf? (r :: rest)).or (setOf? (r :: rest)) with
      | some s => ofSet s
      | none =>
        match sharedStart (r :: rest) with
        | [] => ofBranches r rest
        | start =>
          sequence (start ++
            [choiceWithin fuel ((r :: rest).map fun s => sequence (s.items.drop start.length))])

def size : Normal → Nat
  | capture _ r | repeated r _ _ _ => r.size + 1
  | seq r s | alt r s => r.size + s.size + 1
  | _ => 1

def choice (rs : List Normal) : Normal :=
  choiceWithin (rs.foldl (fun n r => n + r.size) 1) rs

end Normal

/-- The normal forms of the alternatives of an expression. -/
def normalBranches : Regex → List Normal
  | empty => [.empty]
  | set s _ => [.ofSet s]
  | assertion a => [.assertion a]
  | seq r s => [.sequence [.choice (normalBranches r), .choice (normalBranches s)]]
  | alt r s => .choice (normalBranches r) :: normalBranches s
  | group none r => [.choice (normalBranches r)]
  | group (some i) r => [.capture i (.choice (normalBranches r))]
  | repeated r least most greedy => [.repetition (.choice (normalBranches r)) least most greedy]

def normal (r : Regex) : Normal :=
  .choice (normalBranches r)

end FilterQuery.Regex
