/-!
# The proleptic Gregorian calendar

The leap rule holds for all years, the year zero and the years before it among them. Days are
counted from the first of January 1970.
-/

namespace FilterQuery.Calendar

def isLeap (y : Int) : Bool :=
  y % 4 == 0 && (y % 100 != 0 || y % 400 == 0)

def monthLengths (y : Int) : List Nat :=
  [31, if isLeap y then 29 else 28, 31, 30, 31, 30, 31, 31, 30, 31, 30, 31]

/-- The length of a month, the first month being 1; zero for a month that does not exist. -/
def monthLength (y : Int) (m : Nat) : Nat :=
  if m = 0 then 0 else (monthLengths y).getD (m - 1) 0

/-- A day of the calendar. -/
structure Day where
  year : Int
  month : Nat
  day : Nat
deriving DecidableEq

def Day.exists? (d : Day) : Bool :=
  1 ≤ d.day && d.day ≤ monthLength d.year d.month

/-- The days from the start of the year zero to the start of the year `y`: 365 for each year
between, and one for each leap year. -/
def daysBeforeYear (y : Int) : Int :=
  365 * y + (y + 3) / 4 - (y + 99) / 100 + (y + 399) / 400

/-- The days from the start of the year zero to the start of 1970. -/
def epoch : Int := 719528

def daysBeforeMonth (y : Int) (m : Nat) : Nat :=
  ((monthLengths y).take (m - 1)).foldr (· + ·) 0

def Day.number (d : Day) : Int :=
  daysBeforeYear d.year + daysBeforeMonth d.year d.month + (d.day - 1) - epoch

/-- The year that holds the day `n` counted from the start of the year zero. Within 400 years the
quotient by 365 is the year or the one after it. -/
def yearOf (n : Int) : Int :=
  let k := n % 146097 / 365
  400 * (n / 146097) + (if daysBeforeYear k ≤ n % 146097 then k else k - 1)

/-- The month and the day of the month, given the lengths of the months from `m` on and the number
of days before the day. -/
def monthDay (m : Nat) : List Nat → Nat → Nat × Nat
  | [], n => (m, n + 1)
  | length :: rest, n => if n < length then (m, n + 1) else monthDay (m + 1) rest (n - length)

def Day.ofNumber (n : Int) : Day :=
  let y := yearOf (n + epoch)
  let (m, d) := monthDay 1 (monthLengths y) (n + epoch - daysBeforeYear y).toNat
  ⟨y, m, d⟩

end FilterQuery.Calendar
