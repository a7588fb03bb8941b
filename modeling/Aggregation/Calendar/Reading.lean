import Aggregation.Calendar
import Aggregation.Text.Numeral

/-!
This module contains the reading of points in time that are written as a date, a time of day and an
offset, such as `2024-05-01T12:30:00.5+02:00`.
-/

namespace Aggregation

namespace Instant

abbrev Reader := StateT (List Char) Option

namespace Reader

def character : Reader Char
  | c :: cs => some (c, cs)
  | [] => none

def mark (c : Char) : Reader Unit := do
  guard ((← character) = c)

/--
A number of exactly `width` digits.
-/
def number (width : Nat) : Reader Nat := fun cs => do
  guard (width ≤ cs.length)
  return (← Text.Numeral.digits? (cs.take width), cs.drop width)

def date : Reader Date := do
  let year ← number 4
  mark '-'
  let month ← number 2
  mark '-'
  let day ← number 2
  guard (1 ≤ month ∧ month ≤ 12 ∧ 1 ≤ day ∧ day ≤ Date.daysInMonth year month)
  return ⟨year, month, day⟩

/--
The nanoseconds of an optional fraction of a second. Digits after the ninth do not count.
-/
def fraction : Reader Nat
  | '.' :: cs => do
    let digits := cs.takeWhile Char.isDigit
    guard (digits.length ≠ 0)
    let n ← Text.Numeral.digits? (digits.take 9)
    return (n * Nat.pow 10 (9 - digits.length), cs.dropWhile Char.isDigit)
  | cs => some (0, cs)

/--
The seconds by which the clock is ahead of UTC.
-/
def offset : Reader Int := do
  let c ← character
  if c = 'Z' ∨ c = 'z' then
    return 0
  else
    guard (c = '+' ∨ c = '-')
    let hours ← number 2
    mark ':'
    let minutes ← number 2
    guard (hours < 24 ∧ minutes < 60)
    let ahead : Int := hours * 3600 + minutes * 60
    return if c = '-' then -ahead else ahead

/--
Any ASCII character separates the date from the time of day. A second numbered 60 is a leap second,
which only comes at the end of a month in UTC, and counts as the nanosecond before it.
-/
def instant : Reader Instant := do
  let date ← date
  guard ((← character).toNat < 128)
  let hour ← number 2
  mark ':'
  let minute ← number 2
  mark ':'
  let second ← number 2
  let nanoseconds ← fraction
  let offset ← offset
  guard (hour < 24 ∧ minute < 60 ∧ second ≤ 60)
  let start := date.dayNumber * 86400 + hour * 3600 + minute * 60 - offset
  if second < 60 then
    return .ofSeconds (start + second) nanoseconds
  else
    let first : Int := Date.dayNumber { date with day := 1 }
    let next : Int := first + Date.daysInMonth date.year date.month
    guard (start + 60 = first * 86400 ∨ start + 60 = next * 86400)
    return .ofSeconds (start + 59) 999999999

end Reader

def ofText? (s : String) : Option Instant :=
  match Reader.instant s.toList with
  | some (t, []) => some t
  | _ => none

end Instant

end Aggregation
