import WaybillBoard.Time.Calendar
import WaybillBoard.Text.Blank

/-!
Instants in UTC to the nanosecond. A leap second is a second whose nanoseconds go on past
999 999 999, so that its clock shows 60 seconds.
-/

namespace WaybillBoard.Time

def nanosPerSecond : Nat := 1000000000

def secondsPerDay : Int := 86400

/-- Seconds since 1970-01-01 and nanoseconds, fewer than two thousand million of them. -/
structure Instant where
  seconds : Int
  nanos : Nat
  deriving DecidableEq, Repr

namespace Instant

def epoch : Instant := ⟨0, 0⟩

def isLeap (t : Instant) : Bool := nanosPerSecond ≤ t.nanos

def date (t : Instant) : Date := Date.ofDays (t.seconds / secondsPerDay)

def day (t : Instant) : Int := t.seconds / secondsPerDay

def secondOfDay (t : Instant) : Int := t.seconds % secondsPerDay

/-- The nanoseconds from `u` to `t`. A leap second between the two times of day counts. -/
def nanosSince (t u : Instant) : Int :=
  let adjust : Int :=
    if u.secondOfDay < t.secondOfDay then (if u.isLeap then 1 else 0)
    else if t.secondOfDay < u.secondOfDay then (if t.isLeap then -1 else 0)
    else 0
  ((t.day - u.day) * secondsPerDay + (t.secondOfDay - u.secondOfDay) + adjust) * nanosPerSecond +
    ((t.nanos : Int) - u.nanos)

/-- Whole seconds from `u` to `t`, the fraction dropped. -/
def secondsSince (t u : Instant) : Int := (t.nanosSince u).tdiv nanosPerSecond

/-- Whole milliseconds from `u` to `t`, the fraction dropped. -/
def millisSince (t u : Instant) : Int := (t.nanosSince u).tdiv 1000000

/-- What a clock shows: hour, minute, second and the nanoseconds within the second. -/
def clock (t : Instant) : Nat × Nat × Nat × Nat :=
  let s := t.secondOfDay.toNat
  let leap := if t.isLeap then 1 else 0
  (s / 3600, s / 60 % 60, s % 60 + leap, t.nanos - leap * nanosPerSecond)

end Instant

open Text (paddedDigits)

/-- Four digits, and a sign with years that have not four. -/
def yearText (year : Int) : List Char :=
  if 0 ≤ year ∧ year ≤ 9999 then paddedDigits 4 year.toNat
  else (if year < 0 then '-' else '+') :: paddedDigits 4 year.natAbs

/-- `2021-06-04` -/
def Date.text (d : Date) : List Char :=
  yearText d.year ++ '-' :: paddedDigits 2 d.month ++ '-' :: paddedDigits 2 d.day

/-- `08:34:42` -/
def Instant.clockText (t : Instant) : List Char :=
  let (hour, minute, second, _) := t.clock
  paddedDigits 2 hour ++ ':' :: paddedDigits 2 minute ++ ':' :: paddedDigits 2 second

end WaybillBoard.Time
