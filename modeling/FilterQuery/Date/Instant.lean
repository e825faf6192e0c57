import FilterQuery.Date.Calendar
import FilterQuery.Text.Basic
import FilterQuery.Text.Digits

/-!
# Instants

A point in time is read from an ISO-8601 date-time in UTC, such as `2024-05-01T10:20:30.5Z`, and
written with exactly three digits of the second's fraction.
-/

namespace FilterQuery

/-- Seconds since the start of 1970, rounded down, and the nanoseconds from there on. -/
structure Instant where
  seconds : Int
  nanos : Nat
  nanos_lt : nanos < 1000000000
deriving DecidableEq

namespace Instant

/-- The date-times that have an instant: the years from -262143 to 262142. -/
def inRange (year : Int) : Bool :=
  -262143 ≤ year && year ≤ 262142

/-- The instant of a second of a day. -/
def ofDay (d : Calendar.Day) (second nanos : Nat) (h : nanos < 1000000000) : Instant :=
  ⟨d.number * 86400 + second, nanos, h⟩

/-- The number of two digits at the head of a text, if it lies between the bounds. -/
def readPair (low high : Nat) : List Char → Option (Nat × List Char)
  | a :: b :: rest =>
    let n := Text.digitsValue [a, b]
    if a.isDigit && b.isDigit && low ≤ n && n ≤ high then some (n, rest) else none
  | _ => none

def readMark (mark : Char) : List Char → Option (List Char)
  | c :: rest => if c = mark then some rest else none
  | [] => none

/-- A year: four digits, or more of them when the first is not zero, after an optional minus
sign. -/
def readYear (cs : List Char) : Option (Int × List Char) :=
  let (negative, cs) := match cs with
    | '-' :: rest => (true, rest)
    | _ => (false, cs)
  let (ds, rest) := Text.run Char.isDigit cs
  if ds.length = 4 ∨ 4 < ds.length ∧ ds.head? ≠ some '0' then
    let n : Int := Text.digitsValue ds
    some (if negative then -n else n, rest)
  else none

/-- A date, up to the letter before the time. -/
def readDay (cs : List Char) : Option (Calendar.Day × List Char) := do
  let (year, cs) ← readYear cs
  let cs ← readMark '-' cs
  let (month, cs) ← readPair 1 12 cs
  let cs ← readMark '-' cs
  let (day, cs) ← readPair 1 31 cs
  let cs ← readMark 'T' cs
  some (⟨year, month, day⟩, cs)

def readTime (cs : List Char) : Option (Nat × List Char) := do
  let (hour, cs) ← readPair 0 23 cs
  let cs ← readMark ':' cs
  let (minute, cs) ← readPair 0 59 cs
  let cs ← readMark ':' cs
  let (second, cs) ← readPair 0 59 cs
  some (3600 * hour + 60 * minute + second, cs)

/-- The nanoseconds that the digits after a point stand for; those after the ninth are dropped. -/
def fractionNanos (ds : List Char) : Nat :=
  Text.digitsValue (ds.take 9 ++ List.replicate (9 - ds.length) '0')

def readFraction (cs : List Char) : Option (Nat × List Char) :=
  match cs with
  | '.' :: rest =>
    let (ds, rest) := Text.run Char.isDigit rest
    if ds.isEmpty then none else some (fractionNanos ds, rest)
  | _ => some (0, cs)

/-- Reads a date-time that takes up the whole text and exists. The mark of UTC is optional. -/
def read? (cs : List Char) : Option Instant := do
  let (day, cs) ← readDay cs
  let (second, cs) ← readTime cs
  let (nanos, cs) ← readFraction cs
  if h : (cs = [] ∨ cs = ['Z']) ∧ day.exists? ∧ inRange day.year ∧ nanos < 1000000000 then
    some (ofDay day second nanos h.2.2.2)
  else none

def day (t : Instant) : Calendar.Day :=
  Calendar.Day.ofNumber (t.seconds / 86400)

def secondOfDay (t : Instant) : Nat :=
  (t.seconds % 86400).toNat

/-- The years 0 to 9999 have four digits; all others a sign and at least four digits. -/
def yearText (y : Int) : List Char :=
  if 0 ≤ y ∧ y ≤ 9999 then Text.paddedDigits 4 y.toNat
  else (if y < 0 then '-' else '+') :: Text.paddedDigits 4 y.natAbs

/-- The written form, with the fraction cut off after the milliseconds. -/
def text (t : Instant) : List Char :=
  let d := t.day
  let s := t.secondOfDay
  yearText d.year ++ '-' :: Text.paddedDigits 2 d.month ++ '-' :: Text.paddedDigits 2 d.day ++
    'T' :: Text.paddedDigits 2 (s / 3600) ++ ':' :: Text.paddedDigits 2 (s / 60 % 60) ++
    ':' :: Text.paddedDigits 2 (s % 60) ++ '.' :: Text.paddedDigits 3 (t.nanos / 1000000) ++ ['Z']

end Instant

end FilterQuery
