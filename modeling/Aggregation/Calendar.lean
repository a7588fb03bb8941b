import Aggregation.Bson.Basic

/-!
This module contains points in time and days of the proleptic Gregorian calendar.
-/

namespace Aggregation

/--
Nanoseconds since the start of the year 1970 in UTC.
-/
structure Instant where
  nanoseconds : Int
  deriving DecidableEq

namespace Instant

def ofSeconds (seconds : Int) (nanoseconds : Nat) : Instant :=
  ⟨seconds * 1000000000 + nanoseconds⟩

def seconds (t : Instant) : Int :=
  t.nanoseconds.fdiv 1000000000

/--
The nanoseconds since the last full second.
-/
def subsecond (t : Instant) : Int :=
  t.nanoseconds.fmod 1000000000

def milliseconds (t : Instant) : Int :=
  t.nanoseconds.fdiv 1000000

def toBson (t : Instant) : Bson :=
  .dateTime (.ofInt t.milliseconds)

end Instant

structure Date where
  year : Int
  month : Nat
  day : Nat
  deriving DecidableEq

namespace Date

def isLeapYear (year : Int) : Bool :=
  year % 4 == 0 && (year % 100 != 0 || year % 400 == 0)

def daysInMonth (year : Int) (month : Nat) : Nat :=
  if month = 2 then
    if isLeapYear year then 29 else 28
  else if month ∈ [4, 6, 9, 11] then
    30
  else
    31

/--
The days from the first day of the year 1 to the first day of `year`.
-/
def daysBeforeYear (year : Int) : Int :=
  let y := year - 1
  365 * y + y.fdiv 4 - y.fdiv 100 + y.fdiv 400

def daysBeforeMonth (year : Int) (month : Nat) : Nat :=
  ((List.range month).drop 1).foldl (fun n m => n + daysInMonth year m) 0

/--
The days since the start of the year 1970.
-/
def dayNumber (d : Date) : Int :=
  daysBeforeYear d.year - daysBeforeYear 1970 + daysBeforeMonth d.year d.month + (d.day - 1)

def midnight (d : Date) : Instant :=
  .ofSeconds (d.dayNumber * 86400) 0

end Date

end Aggregation
