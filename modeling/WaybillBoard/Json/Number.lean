import WaybillBoard.Json.Basic
import WaybillBoard.Binary64.Layout

/-!
Numbers of JSON. A whole number that fits 64 bits is exact; any other is a binary64 value, made of
at most 64 bits of digits that are scaled by powers of ten, which is not always the nearest one.
-/

namespace WaybillBoard.Json

open Binary64

/-- The parts of a number. -/
structure NumberParts where
  negative : Bool
  whole : List Char
  fraction : List Char
  exponent : Option Int

/-- Splits the characters of a number. -/
def NumberParts.ofDigits (cs : List Char) : NumberParts :=
  let (negative, cs) := match cs with
    | '-' :: rest => (true, rest)
    | _ => (false, cs)
  let whole := cs.takeWhile Text.isDigit
  let rest := cs.dropWhile Text.isDigit
  let (fraction, rest) := match rest with
    | '.' :: more => (more.takeWhile Text.isDigit, more.dropWhile Text.isDigit)
    | _ => ([], rest)
  let exponent : Option Int := match rest with
    | [] => none
    | _ :: '-' :: digits => some (-(Text.digitsValue digits : Int))
    | _ :: '+' :: digits => some (Text.digitsValue digits)
    | _ :: digits => some (Text.digitsValue digits)
  ⟨negative, whole, fraction, exponent⟩

inductive NumberValue
  | whole (value : Int)
  | real (value : Binary64)

/-- Takes digits into a 64-bit word as long as they fit: the word and the digits left over. -/
def takeWord (word : Nat) : List Char → Nat × List Char
  | [] => (word, [])
  | c :: cs =>
    let next := word * 10 + (c.toNat - 48)
    if next < 0x10000000000000000 then takeWord next cs else (word, c :: cs)

/-- `10 ^ n` as a binary64 value, for `n` up to 308. -/
def powerOfTen (n : Nat) : Binary64 := ofDecimal false 1 n

def mul : Binary64 → Binary64 → Binary64
  | .finite _ a _, .finite _ b _ => mulFinite false a b
  | _, _ => .infinity false

def div : Binary64 → Binary64 → Binary64
  | .finite _ a _, .finite _ b _ => divFinite false a b
  | _, _ => .nan

def isZero : Binary64 → Bool
  | .finite _ u _ => u == 0
  | _ => false

/-- Scales a magnitude by a power of ten; none when the result is too large. -/
def scale (magnitude : Binary64) (exponent : Int) : Option Binary64 :=
  if exponent.natAbs ≤ 308 then
    if 0 ≤ exponent then
      let product := mul magnitude (powerOfTen exponent.natAbs)
      if product.isFinite then some product else none
    else some (div magnitude (powerOfTen exponent.natAbs))
  else if isZero magnitude then some magnitude
  else if 0 ≤ exponent then none
  else scale (div magnitude (powerOfTen 308)) (exponent + 308)
termination_by exponent.natAbs
decreasing_by omega

/-- The largest exponent that is read as a number; past it a result is zero or too large. -/
def exponentLimit : Int := 0x80000000

/-- The binary64 value of the parts; none when it is too large. -/
def NumberParts.real? (n : NumberParts) : Option Binary64 :=
  let (word, dropped) := takeWord 0 n.whole
  let (word, left) := takeWord word n.fraction
  let exponent : Int := (dropped.length : Int) - (n.fraction.length - left.length : Nat)
  let signed (x : Binary64) : Binary64 := if n.negative then x.negated else x
  match n.exponent with
  | none => (scale (ofNat word) exponent).map signed
  | some e =>
    if exponentLimit ≤ e then (if word = 0 then some (signed (Binary64.zero false)) else none)
    else if e ≤ -exponentLimit then some (signed (Binary64.zero false))
    else (scale (ofNat word) (exponent + e)).map signed

/-- The value of the characters of a number; none when it is too large. -/
def numberValue? (digits : List Char) : Option NumberValue :=
  let n := NumberParts.ofDigits digits
  let value := Text.digitsValue n.whole
  if n.fraction.isEmpty && n.exponent.isNone then
    if n.negative then
      if 0 < value ∧ value ≤ 0x8000000000000000 then some (.whole (-(value : Int)))
      else n.real?.map .real
    else if value < 0x10000000000000000 then some (.whole value)
    else n.real?.map .real
  else n.real?.map .real

/-- The shortest text of a value. -/
def NumberValue.text : NumberValue → List Char
  | .whole n => intDigits n
  | .real x => textWith .json [] [] x

/-- A whole number. -/
def ofInt (n : Int) : Json := .number (intDigits n)

def ofNat (n : Nat) : Json := .number (Text.natDigits n)

end WaybillBoard.Json
