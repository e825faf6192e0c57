import FilterQuery.Unicode.CaseFold

/-!
# Sets of characters

A set of characters is the list of its ranges of code points, in order and with a gap after each.
The operations of bracketed classes are defined on it: union, complement, intersection, two kinds
of difference, and closure under letter case.
-/

namespace FilterQuery

structure CharSet where
  ranges : Unicode.RangeTable
deriving DecidableEq

namespace CharSet

def contains (s : CharSet) (c : Char) : Bool :=
  s.ranges.contains c

def empty : CharSet := ⟨[]⟩

def lastCode : Nat := 0x10FFFF

def all : CharSet := ⟨[(0, lastCode)]⟩

def single (c : Char) : CharSet := ⟨[(c.toNat, c.toNat)]⟩

def single? (s : CharSet) : Option Char :=
  match s.ranges with
  | [(a, b)] => if h : a.isValidChar ∧ a = b then some (Char.ofNatAux a h.1) else none
  | _ => none

/-- Whether all members are below U+0080. -/
def isAscii (s : CharSet) : Bool :=
  s.ranges.all fun r => r.2 < 0x80

/-- Joins ranges that meet, of ranges ordered by their first members. -/
def join : Unicode.RangeTable → Unicode.RangeTable
  | [] => []
  | [r] => [r]
  | r :: s :: rest =>
    if s.1 ≤ r.2 + 1 then join ((r.1, max r.2 s.2) :: rest) else r :: join (s :: rest)
termination_by t => t.length

/-- Puts a range in front of the first that does not start before it. -/
def insertRange (r : Nat × Nat) : Unicode.RangeTable → Unicode.RangeTable
  | [] => [r]
  | s :: rest => if r.1 ≤ s.1 then r :: s :: rest else s :: insertRange r rest

/-- The set that some ranges make up together. -/
def ofRanges (t : Unicode.RangeTable) : CharSet :=
  ⟨join (t.foldr insertRange [])⟩

def union (s t : CharSet) : CharSet :=
  ofRanges (s.ranges ++ t.ranges)

/-- The code point of the next character, which the surrogates are not. -/
def next (n : Nat) : Nat :=
  if n = 0xD7FF then 0xE000 else n + 1

def previous (n : Nat) : Nat :=
  if n = 0xE000 then 0xD7FF else n - 1

/-- What lies between and after the ranges, from `last` on. The ends of a gap are put in order:
where two ranges leave out just the surrogates, the characters on both sides count as the gap. -/
def gaps : Nat → Unicode.RangeTable → Unicode.RangeTable
  | last, [] => if last < lastCode then [(next last, lastCode)] else []
  | last, (a, b) :: rest =>
    (min (next last) (previous a), max (next last) (previous a)) :: gaps b rest

def complement (s : CharSet) : CharSet :=
  match s.ranges with
  | [] => all
  | (a, b) :: rest => ⟨(if 0 < a then [(0, previous a)] else []) ++ gaps b rest⟩

/-- What two ranges have in common. -/
def overlap? (r s : Nat × Nat) : Option (Nat × Nat) :=
  if max r.1 s.1 ≤ min r.2 s.2 then some (max r.1 s.1, min r.2 s.2) else none

def inter (s t : CharSet) : CharSet :=
  ⟨s.ranges.flatMap fun r => t.ranges.filterMap (overlap? r)⟩

/-- What is left of a range without another. -/
def remainder (s r : Nat × Nat) : Unicode.RangeTable :=
  if r.2 < s.1 ∨ s.2 < r.1 then [r]
  else
    (if r.1 < s.1 then [(r.1, previous s.1)] else []) ++
      (if s.2 < r.2 then [(next s.2, r.2)] else [])

def diff (s t : CharSet) : CharSet :=
  ⟨s.ranges.flatMap fun r => t.ranges.foldl (fun rest u => rest.flatMap (remainder u)) [r]⟩

def symmDiff (s t : CharSet) : CharSet :=
  (s.union t).diff (s.inter t)

/-- The code points that have a variant in another case. -/
def cased : List Nat :=
  Unicode.foldTable.flatMap fun r => r.members.flatMap fun n => [n, ((n : Int) + r.shift).toNat]

/-- Adds to a set the characters that differ from a member by case alone. -/
def caseless (s : CharSet) : CharSet :=
  let variants := (cased.filter s.ranges.containsCode).flatMap Unicode.caseVariants
  if variants = [] then s else ofRanges (s.ranges ++ variants.map fun n => (n, n))

/-- Adds to a set the ASCII letters that differ from a member by case alone. -/
def asciiCaseless (s : CharSet) : CharSet :=
  let upper := s.inter ⟨[(0x41, 0x5A)]⟩
  let lower := s.inter ⟨[(0x61, 0x7A)]⟩
  ofRanges (s.ranges ++ upper.ranges.map (fun r => (r.1 + 32, r.2 + 32)) ++
    lower.ranges.map fun r => (r.1 - 32, r.2 - 32))

/-- The set or its complement. -/
def withSign (negated : Bool) (s : CharSet) : CharSet :=
  if negated then s.complement else s

end CharSet

end FilterQuery
