import WaybillBoard.Binary64.Shortest
import WaybillBoard.Text.Blank

/-!
How a binary64 value is written: the digits are the shortest ones, a layout says where the point
stands and when an exponent is used instead.
-/

namespace WaybillBoard.Binary64

/-- Decisions of a number format. -/
structure Layout where
  /-- Is a whole number followed by `.0`? -/
  wholePoint : Bool
  /-- The places of the decimal point, counted from the first digit, that are written without an
  exponent: more than the first and at most the second. All, when there are no bounds. -/
  bounds : Option (Int × Int)
  /-- Does an exponent that is not negative have a plus? -/
  exponentPlus : Bool := false

/-- Digits and a point only. -/
def Layout.plain : Layout := ⟨false, none, false⟩

/-- A whole number has a fraction, and numbers from `1e16` on or below `1e-5` have an exponent. -/
def Layout.document : Layout := ⟨true, some (-5, 16), false⟩

/-- As in other documents, but with a plus, as in `1e+16`. -/
def Layout.json : Layout := { Layout.document with exponentPlus := true }

/-- The digits with the point after the first `place` of them; zeros fill what is missing. -/
def positional (layout : Layout) (digits : List Char) (place : Int) : List Char :=
  if place ≤ 0 then '0' :: '.' :: (List.replicate (-place).toNat '0' ++ digits)
  else
    let n := place.toNat
    if digits.length ≤ n then
      digits ++ List.replicate (n - digits.length) '0' ++
        (if layout.wholePoint then ['.', '0'] else [])
    else digits.take n ++ '.' :: digits.drop n

def intDigits (n : Int) : List Char :=
  if n < 0 then '-' :: Text.natDigits n.natAbs else Text.natDigits n.natAbs

/-- One digit, the others after a point, and the exponent. -/
def scientific (layout : Layout) (digits : List Char) (place : Int) : List Char :=
  let tail := digits.drop 1
  let plus := if layout.exponentPlus && 1 ≤ place then ['+'] else []
  digits.take 1 ++ (if tail.isEmpty then [] else '.' :: tail) ++
    'e' :: (plus ++ intDigits (place - 1))

/-- The text of a number of units. -/
def unitsText (layout : Layout) (units : Nat) : List Char :=
  let d := shortest units
  let digits := Text.natDigits d.digits
  let place : Int := if units = 0 then 1 else digits.length + d.exponent
  match layout.bounds with
  | none => positional layout digits place
  | some (low, high) =>
    if low < place ∧ place ≤ high then positional layout digits place
    else scientific layout digits place

/-- The text of a value, with the format's own words for what is not finite. -/
def textWith (layout : Layout) (nan infinity : List Char) : Binary64 → List Char
  | .nan => nan
  | .infinity negative => if negative then '-' :: infinity else infinity
  | .finite negative units _ =>
    let text := unitsText layout units
    if negative then '-' :: text else text

/-- The text shown to a person: no exponent, however long it gets. -/
def text (x : Binary64) : List Char := textWith .plain "NaN".toList "inf".toList x

/-- The text with exactly `places` digits after the point, a tie to the even digit. -/
def fixed (places : Nat) : Binary64 → List Char
  | .nan => "nan".toList
  | .infinity negative => if negative then "-inf".toList else "inf".toList
  | .finite negative units _ =>
    let n := roundQuotient (units * Nat.pow 10 places) unitsOfOne
    let body := Text.natDigits (n / Nat.pow 10 places) ++
      '.' :: Text.paddedDigits places (n % Nat.pow 10 places)
    if negative then '-' :: body else body

end WaybillBoard.Binary64
