/-!
# Tables of code points

A property of characters is kept either as the list of its ranges or, for the large tables, as a
text of run lengths that is decoded once.
-/

namespace FilterQuery.Unicode

/-- A set of code points: the first and the last member of each of its ranges. -/
abbrev RangeTable := List (Nat × Nat)

def RangeTable.containsCode (t : RangeTable) (n : Nat) : Bool :=
  t.any fun r => r.1 ≤ n && n ≤ r.2

def RangeTable.contains (t : RangeTable) (c : Char) : Bool :=
  t.containsCode c.toNat

/-- The value of a hexadecimal digit; a character that is none counts as zero. -/
def hexValue (c : Char) : Nat :=
  if c.isDigit then c.toNat - 48
  else if 'a' ≤ c && c ≤ 'f' then c.toNat - 87
  else if 'A' ≤ c && c ≤ 'F' then c.toNat - 55
  else 0

def hexNumber (cs : List Char) : Nat :=
  cs.foldl (fun n c => 16 * n + hexValue c) 0

def words (text : String) : List (List Char) :=
  (text.toList.splitOnP fun c => c == ' ' || c == '\n').filter (· ≠ [])

/-- Reads lengths that alternate between code points outside and inside the set, from zero on. -/
def decodeGaps (text : String) : RangeTable :=
  go 0 ((words text).map hexNumber)
where
  go (start : Nat) : List Nat → RangeTable
    | gap :: size :: rest => (start + gap, start + gap + size - 1) :: go (start + gap + size) rest
    | _ => []

/-- Reads runs that are written as a label of `width` letters and a length. -/
def decodeRuns (width : Nat) (text : String) : List (String × Nat) :=
  (words text).map fun w => (String.ofList (w.take width), hexNumber (w.drop width))

/-- The ranges of the runs with one of the given labels, the first run starting at `start`. -/
def labelRanges (labels : List String) : Nat → List (String × Nat) → RangeTable
  | _, [] => []
  | start, (label, size) :: rest =>
    let others := labelRanges labels (start + size) rest
    if labels.contains label then (start, start + size - 1) :: others else others

/-- The label of the run that holds `n`, the first run starting at zero. -/
def labelAt : List (String × Nat) → Nat → String
  | [], _ => ""
  | (label, size) :: rest, n => if n < size then label else labelAt rest (n - size)

end FilterQuery.Unicode
