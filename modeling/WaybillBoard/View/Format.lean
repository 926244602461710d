import WaybillBoard.Binary64.Basic
import WaybillBoard.Time.Instant

/-!
Instants and differences between them as they are shown, and links to commits.
-/

namespace WaybillBoard.Format

open Time (Instant)
open Text (natDigits)

/-- Date and time of day, to the second. -/
def absolute (t : Instant) : List Char :=
  t.date.text ++ ' ' :: t.clockText ++ " +0000 UTC".toList

/-- The units of ages in seconds, the longest first. -/
def ageUnits : List (Nat × String) :=
  [(365 * 24 * 3600, "year"), (30 * 24 * 3600, "month"), (24 * 3600, "day"), (3600, "hour"),
    (60, "minute"), (1, "second")]

/-- A number of seconds, counted in the longest unit that it holds. -/
def age (seconds : Nat) : Nat × String :=
  match ageUnits.find? (fun u => u.1 ≤ seconds) with
  | some (size, name) => (seconds / size, name)
  | none => (0, "second")

def counted (n : Nat) (name : String) : List Char :=
  natDigits n ++ ' ' :: (name.toList ++ if n = 1 then [] else ['s'])

/-- How long ago `t` is, or how soon it comes. -/
def relative (t now : Instant) : List Char :=
  let seconds := now.secondsSince t
  let (n, name) := age seconds.natAbs
  if 0 ≤ seconds then counted n name ++ " ago".toList else "in ".toList ++ counted n name

/-- Milliseconds in whole seconds, a tie to the even one. Both the milliseconds and the quotient are
taken as binary64 values, which are exact for less than 285 000 years. -/
def wholeSeconds (millis : Nat) : Nat :=
  let rounded := Binary64.roundUnits (millis * Binary64.unitsOfOne) 1
  let quotient := Binary64.roundUnits rounded 1000
  Binary64.roundQuotient quotient Binary64.unitsOfOne

/-- The seconds from `started` to `finished`. A difference below zero keeps its sign even when it
rounds to zero. -/
def latency (started finished : Instant) : List Char :=
  let millis := finished.millisSince started
  let seconds := natDigits (wholeSeconds millis.natAbs) ++ " sec".toList
  if millis < 0 then '-' :: seconds else seconds

/-- What stands before and after the first `part`. -/
def splitAtPart? (part : List Char) : List Char → Option (List Char × List Char)
  | [] => if part.isEmpty then some ([], []) else none
  | c :: cs =>
    match Text.dropStart? part (c :: cs) with
    | some rest => some ([], rest)
    | none => (splitAtPart? part cs).map fun (front, rest) => (c :: front, rest)

/-- The template with its first `%s` replaced by the commit; none when either is missing. -/
def commitLink (template commit : String) : Option String :=
  if commit = "" then none
  else (splitAtPart? ['%', 's'] template.toList).map fun (front, rest) =>
    String.ofList (front ++ commit.toList ++ rest)

end WaybillBoard.Format
