import WaybillBoard.Time.Instant

/-!
Instants as text. Writing is strict RFC 3339 in UTC; reading also takes blanks between the parts,
short numbers, a blank for the `T`, `UTC` for the `Z`, and years with a sign.
-/

namespace WaybillBoard.Time.Rfc3339

open Text (isDigit digitsValue trimStart paddedDigits)

/-- No, 3, 6 or 9 digits, as few as hold the nanoseconds. -/
def fractionText (nanos : Nat) : List Char :=
  if nanos = 0 then []
  else if nanos % 1000000 = 0 then '.' :: paddedDigits 3 (nanos / 1000000)
  else if nanos % 1000 = 0 then '.' :: paddedDigits 6 (nanos / 1000)
  else '.' :: paddedDigits 9 nanos

def write (t : Instant) : List Char :=
  t.date.text ++ 'T' :: t.clockText ++ fractionText t.clock.2.2.2 ++ ['Z']

/-- A number of one to `most` digits after any blanks, and what follows it. -/
def number? (most : Nat) (cs : List Char) : Option (Nat × List Char) :=
  let digits := (cs.take most).takeWhile isDigit
  if digits.isEmpty then none else some (digitsValue digits, cs.drop digits.length)

/-- A number after any blanks that must lie in a range. -/
def field? (most low high : Nat) (cs : List Char) : Option (Nat × List Char) := do
  let (n, rest) ← number? most (trimStart cs)
  if low ≤ n ∧ n ≤ high then some (n, rest) else none

/-- A year: up to four digits, or a sign and any number of them. -/
def year? (cs : List Char) : Option (Int × List Char) :=
  match trimStart cs with
  | '-' :: rest => (number? rest.length rest).map fun (n, rest) => (-(n : Int), rest)
  | '+' :: rest => (number? rest.length rest).map fun (n, rest) => ((n : Int), rest)
  | rest => (number? 4 rest).map fun (n, rest) => ((n : Int), rest)

/-- What follows a mark that may stand after blanks. -/
def after? (mark : Char) (cs : List Char) : Option (List Char) :=
  match trimStart cs with
  | c :: rest => if c = mark then some rest else none
  | [] => none

/-- The nanoseconds after a point; digits past the ninth are dropped. -/
def fraction? : List Char → Option (Nat × List Char)
  | '.' :: cs => do
    let (n, rest) ← number? 9 cs
    some (n * Nat.pow 10 (9 - (cs.length - rest.length)), rest.dropWhile isDigit)
  | cs => some (0, cs)

/-- Two digits. -/
def pair? : List Char → Option (Nat × List Char)
  | a :: b :: rest => if isDigit a && isDigit b then some (digitsValue [a, b], rest) else none
  | _ => none

def isColonOrBlank (c : Char) : Bool := c = ':' || Text.isBlank c

/-- Seconds east of Greenwich: `Z`, `UTC`, or a sign, hours and minutes. -/
def offset? (cs : List Char) : Option (Int × List Char) :=
  match cs with
  | [] => none
  | a :: rest =>
    if (cs.take 3).map Text.asciiLower = ['u', 't', 'c'] then some (0, cs.drop 3)
    else if a = 'Z' ∨ a = 'z' then some (0, rest)
    else if a = '+' ∨ a = '-' ∨ a = Char.ofNat 0x2212 then do
      let (hours, rest) ← pair? rest
      let (minutes, rest) ← pair? (rest.dropWhile isColonOrBlank)
      if 59 < minutes ∨ 23 < hours then none
      else
        let seconds : Int := (hours * 3600 + minutes * 60 : Nat)
        some (if a = '+' then seconds else -seconds, rest)
    else none

/-- The first and the last day that an instant can fall on. -/
def firstDay : Int := Date.toDays ⟨-262143, 1, 1⟩

def lastDay : Int := Date.toDays ⟨262142, 12, 31⟩

def isInRange (t : Instant) : Bool := firstDay ≤ t.day && t.day ≤ lastDay

/-- A date, a `T` or a blank, a time of day, and an offset; blanks may follow. -/
def read (cs : List Char) : Option Instant := do
  let (year, rest) ← year? cs
  let rest ← after? '-' rest
  let (month, rest) ← field? 2 1 12 rest
  let rest ← after? '-' rest
  let (day, rest) ← field? 2 1 31 rest
  let date : Date := ⟨year, month, day⟩
  let rest ← match rest with
    | c :: more => if c = 'T' ∨ c = 't' ∨ c = ' ' then some more else none
    | [] => none
  let (hour, rest) ← field? 2 0 23 rest
  let rest ← after? ':' rest
  let (minute, rest) ← field? 2 0 59 rest
  let rest ← after? ':' rest
  let (second, rest) ← field? 2 0 60 rest
  let (nanos, rest) ← fraction? rest
  let (offset, rest) ← offset? (trimStart rest)
  let leap := if second = 60 then 1 else 0
  let clock : Int := (hour * 3600 + minute * 60 + second - leap : Nat)
  let isYear : Bool := -262143 ≤ year && year ≤ 262142
  if !(trimStart rest).isEmpty || !isYear || !date.isValid then none
  else
    let instant : Instant :=
      ⟨date.toDays * secondsPerDay + clock - offset, nanos + leap * nanosPerSecond⟩
    if isInRange instant then some instant else none

end WaybillBoard.Time.Rfc3339
