import FilterQuery.Regex.CharSet

/-!
# Ranges of bytes

The UTF-8 encodings of a range of characters are the sequences of bytes that lie in one of a few
sequences of byte ranges. `byteRanges` finds these, in order.
-/

namespace FilterQuery.Regex

/-- A range of bytes, by its first and its last member. -/
abbrev ByteRange := Nat × Nat

/-- The bytes of the encoding of a code point. -/
def encodeUtf8 (n : Nat) : List Nat :=
  if n < 0x80 then [n]
  else if n < 0x800 then [0xC0 + n / 0x40, 0x80 + n % 0x40]
  else if n < 0x10000 then [0xE0 + n / 0x1000, 0x80 + n / 0x40 % 0x40, 0x80 + n % 0x40]
  else [0xF0 + n / 0x40000, 0x80 + n / 0x1000 % 0x40, 0x80 + n / 0x40 % 0x40, 0x80 + n % 0x40]

/-- The last code point before a range has to be split because the lengths of encodings change. -/
def lengthBound? (a b : Nat) : Option Nat :=
  [0x7F, 0x7FF, 0xFFFF].find? fun m => a ≤ m && m < b

/-- The last code point before a range has to be split because its later bytes do not take all
values, where `block` is the number of code points that differ in the later bytes alone. -/
def blockBound? (a b : Nat) : Option Nat :=
  [0x40, 0x1000, 0x40000].findSome? fun block =>
    if a / block = b / block then none
    else if a % block ≠ 0 then some (a - a % block + (block - 1))
    else if b % block ≠ block - 1 then some (b - b % block - 1)
    else none

/-- The sequences of byte ranges for the characters from `a` to `b`, by at most `fuel` splits on
top of each other. -/
def byteRangesWithin : Nat → Nat → Nat → List (List ByteRange)
  | 0, _, _ => []
  | fuel + 1, a, b =>
    if a < 0xE000 ∧ 0xD7FF < b then
      byteRangesWithin fuel a 0xD7FF ++ byteRangesWithin fuel 0xE000 b
    else if b < a then []
    else
      match (lengthBound? a b).or (if b < 0x80 then none else blockBound? a b) with
      | some m => byteRangesWithin fuel a m ++ byteRangesWithin fuel (m + 1) b
      | none => [(encodeUtf8 a).zip (encodeUtf8 b)]

def byteRanges (r : Nat × Nat) : List (List ByteRange) :=
  byteRangesWithin 32 r.1 r.2

end FilterQuery.Regex
