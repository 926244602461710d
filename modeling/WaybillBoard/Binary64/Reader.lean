import WaybillBoard.Binary64.Basic
import WaybillBoard.Text.Blank

/-!
Reading a decimal number: an optional sign, digits with at most one point, an optional exponent, or
a word for what is not finite. The result is the nearest binary64 value.
-/

namespace WaybillBoard.Binary64

/-- Why a text is no number. -/
inductive LiteralError
  | empty
  | invalid
  deriving DecidableEq, Repr

def LiteralError.message : LiteralError → String
  | .empty => "cannot parse float from empty string"
  | .invalid => "invalid float literal"

/-- A sign in front of a text, positive unless it is a minus. -/
def takeSign : List Char → Bool × List Char
  | '-' :: cs => (true, cs)
  | '+' :: cs => (false, cs)
  | cs => (false, cs)

/-- The exponent that a text spells, to its end. -/
def exponent? (cs : List Char) : Option Int :=
  let (negative, digits) := takeSign cs
  if digits.isEmpty || !digits.all Text.isDigit then none
  else
    let n := Text.digitsValue digits
    some (if negative then -(n : Int) else n)

/-- The exponent after the digits: none is zero. -/
def exponentPart? : List Char → Option Int
  | [] => some 0
  | c :: cs => if c = 'e' ∨ c = 'E' then exponent? cs else none

/-- An unsigned number in digits. -/
def unsigned? (negative : Bool) (cs : List Char) : Option Binary64 :=
  let whole := cs.takeWhile Text.isDigit
  let rest := cs.dropWhile Text.isDigit
  let (fraction, rest) := match rest with
    | '.' :: more => (more.takeWhile Text.isDigit, more.dropWhile Text.isDigit)
    | _ => ([], rest)
  if whole.isEmpty && fraction.isEmpty then none
  else (exponentPart? rest).map fun e =>
    ofDecimal negative (Text.digitsValue (whole ++ fraction)) (e - fraction.length)

/-- The value that a text spells. -/
def ofLiteral (cs : List Char) : Except LiteralError Binary64 :=
  if cs.isEmpty then .error .empty
  else
    let (negative, body) := takeSign cs
    let lower := body.map Text.asciiLower
    if lower = "inf".toList ∨ lower = "infinity".toList then .ok (.infinity negative)
    else if lower = "nan".toList then .ok .nan
    else match unsigned? negative body with
      | some x => .ok x
      | none => .error .invalid

end WaybillBoard.Binary64
