import WaybillBoard.Binary64.Basic

/-!
The fewest decimal digits that read back as a given value. Of two such numbers of the same length
the nearer one is taken, and the even one on a tie.
-/

namespace WaybillBoard.Binary64

/-- The number `digits * 10 ^ exponent`. -/
structure Decimal where
  digits : Nat
  exponent : Int
  deriving DecidableEq, Repr

/-- The decimal exponent of the leading digit of `units`, which is not zero. -/
def leadingExponent (units : Nat) : Int :=
  if unitsOfOne ≤ units then
    ((Nat.toDigits 10 (units / unitsOfOne)).length : Int) - 1
  else
    let places := (Nat.toDigits 10 (unitsOfOne / units)).length
    if units * Nat.pow 10 (places - 1) = unitsOfOne then 1 - (places : Int) else -(places : Int)

/-- The units as a quotient of whole numbers in which `10 ^ exponent` counts one. -/
def scaled (units : Nat) (exponent : Int) : Nat × Nat :=
  if 0 ≤ exponent then (units, unitsOfOne * Nat.pow 10 exponent.toNat)
  else (units * Nat.pow 10 (-exponent).toNat, unitsOfOne)

/-- Does the decimal read as that many units? -/
def readsAs (units : Nat) (d : Decimal) : Bool :=
  match ofDecimal false d.digits d.exponent with
  | .finite _ u _ => u == units
  | _ => false

/-- The number with `count` digits that reads back, if there is one. -/
def withDigits (units count : Nat) : Option Decimal :=
  let exponent := leadingExponent units + 1 - count
  let (num, den) := scaled units exponent
  let low := num / den
  let twice := 2 * (num % den)
  let near := if twice < den ∨ (twice = den ∧ low % 2 = 0) then low else low + 1
  let far := if near = low then low + 1 else low
  [near, far].map (⟨·, exponent⟩) |>.find? (readsAs units)

/-- The value in full. -/
def expansion (units : Nat) : Decimal := ⟨units * Nat.pow 5 1074, -1074⟩

/-- Without the zeros at the end, at most `fuel` of them. -/
def dropZeros : Nat → Decimal → Decimal
  | 0, d => d
  | fuel + 1, d =>
    if d.digits ≠ 0 ∧ d.digits % 10 = 0 then dropZeros fuel ⟨d.digits / 10, d.exponent + 1⟩ else d

/-- The shortest decimal that reads back as `units`; zero for zero. -/
def shortest (units : Nat) : Decimal :=
  if units = 0 then ⟨0, 0⟩
  else
    match (List.range 17).findSome? (fun i => withDigits units (i + 1)) with
    | some d => dropZeros 20 d
    | none => expansion units

end WaybillBoard.Binary64
