/-!
Punycode: a label with characters beyond ASCII as ASCII text. The ASCII characters come first, then
the others in ascending order, each as the number of steps from the one before it.
-/

namespace WaybillBoard.Url.Punycode

/-- Digits to base 36: letters, then numerals. -/
def digit (d : Nat) : Char := Char.ofNat (if d < 26 then 0x61 + d else 0x30 + d - 26)

/-- The least value of a digit that is not the last one of its number. -/
def threshold (place bias : Nat) : Nat :=
  if place ≤ bias then 1 else if bias + 26 ≤ place then 26 else place - bias

theorem threshold_bounds (place bias : Nat) :
    1 ≤ threshold place bias ∧ threshold place bias ≤ 26 := by
  unfold threshold
  split
  · omega
  · split <;> omega

/-- The digits of a number, the least significant first. -/
def digits (bias place n : Nat) : List Char :=
  let t := threshold place bias
  if h : n < t then [digit n]
  else digit (t + (n - t) % (36 - t)) :: digits bias (place + 36) ((n - t) / (36 - t))
termination_by n
decreasing_by
  have := threshold_bounds place bias
  exact Nat.lt_of_le_of_lt (Nat.div_le_self _ _) (by omega)

/-- Divides until the rest is small; the second number counts the places passed. -/
def reduce (delta place : Nat) : Nat × Nat :=
  if 455 < delta then reduce (delta / 35) (place + 36) else (delta, place)
termination_by delta
decreasing_by exact Nat.div_lt_self (by omega) (by omega)

/-- The bias after a number, from the count of characters so far. -/
def adapt (delta count : Nat) (isFirst : Bool) : Nat :=
  let delta := if isFirst then delta / 700 else delta / 2
  let (delta, place) := reduce (delta + delta / count) 0
  place + 36 * delta / (delta + 38)

structure State where
  written : List Char
  /-- The next character that can be written. -/
  next : Nat := 128
  delta : Nat := 0
  bias : Nat := 72
  /-- How many characters of the label are written. -/
  count : Nat
  isFirst : Bool := true

/-- Passes a character of the label while those with one code are written. -/
def pass (code : Nat) (s : State) (c : Char) : State :=
  if c.toNat < code then { s with delta := s.delta + 1 }
  else if c.toNat = code then
    { s with
      written := s.written ++ digits s.bias 36 s.delta
      bias := adapt s.delta (s.count + 1) s.isFirst
      delta := 0
      count := s.count + 1
      isFirst := false }
  else s

/-- Writes all characters with one code. -/
def writeCode (label : List Char) (s : State) (code : Nat) : State :=
  let s := { s with delta := s.delta + (code - s.next) * (s.count + 1), next := code }
  let s := label.foldl (pass code) s
  { s with delta := s.delta + 1, next := code + 1 }

def encode (label : List Char) : List Char :=
  let ascii := label.filter (fun c => c.toNat < 128)
  let codes := ((label.map Char.toNat).filter (fun n => 128 ≤ n)).eraseDups.mergeSort
  let start := if ascii.isEmpty then [] else ascii ++ ['-']
  (codes.foldl (writeCode label) { written := start, count := ascii.length }).written

def digitValue? (c : Char) : Option Nat :=
  let n := c.toNat
  if 0x61 ≤ n ∧ n ≤ 0x7A then some (n - 0x61)
  else if 0x30 ≤ n ∧ n ≤ 0x39 then some (n - 0x30 + 26)
  else none

/-- The number at the front of digits, and what follows it. -/
def number? (bias place weight : Nat) : List Char → Option (Nat × List Char)
  | [] => none
  | c :: cs => do
    let d ← digitValue? c
    let t := threshold place bias
    if d < t then return (d * weight, cs)
    else
      let (more, rest) ← number? bias (place + 36) (weight * (36 - t)) cs
      return (d * weight + more, rest)

/-- A label that is being read. -/
structure Unfinished where
  label : List Char
  next : Nat := 128
  /-- Where the next character goes, if it is the next one in order. -/
  place : Nat := 0
  bias : Nat := 72
  isFirst : Bool := true

/-- Puts in the characters of at most so many numbers. -/
def insertFrom : Nat → Unfinished → List Char → Option (List Char)
  | _, p, [] => some p.label
  | 0, _, _ => none
  | fuel + 1, p, cs => do
    let (delta, rest) ← number? p.bias 36 1 cs
    let count := p.label.length + 1
    let place := (p.place + delta) % count
    let next := p.next + (p.place + delta) / count
    if next.isValidChar then
      insertFrom fuel
        ⟨p.label.insertIdx place (Char.ofNat next), next, place + 1, adapt delta count p.isFirst,
          false⟩ rest
    else none

/-- The label that a text stands for, if it does. The last hyphen ends the ASCII characters. -/
def decode? (cs : List Char) : Option (List Char) :=
  let digits := (cs.reverse.takeWhile (· ≠ '-')).reverse
  insertFrom digits.length { label := cs.take (cs.length - digits.length - 1) } digits

end WaybillBoard.Url.Punycode
