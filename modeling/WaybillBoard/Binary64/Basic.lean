/-!
Binary64 values, counted exactly: a finite value is a sign and a number of units of `2 ^ -1074`.
Order is the order of integers, and every operation rounds an exact quotient once, to the nearest
value, a tie to the even one.
-/

namespace WaybillBoard

/-- The units of `2 ^ 1024`, which is too large. -/
def unitsLimit : Nat := Nat.pow 2 2098

/-- What a finite binary64 value can count: at most 53 significant bits, below the limit. -/
def Representable (units : Nat) : Prop :=
  units < unitsLimit ∧
    ∃ significand shift, significand < Nat.pow 2 53 ∧ units = significand * Nat.pow 2 shift

inductive Binary64
  | nan
  | infinity (negative : Bool)
  | finite (negative : Bool) (units : Nat) (representable : Representable units)
  deriving DecidableEq

namespace Binary64

/-- One, in units. -/
def unitsOfOne : Nat := Nat.pow 2 1074

theorem representable_zero : Representable 0 :=
  ⟨Nat.pow_pos (by decide), 0, 0, by decide, by simp⟩

def zero (negative : Bool) : Binary64 := .finite negative 0 representable_zero

/-- The quotient to the nearest whole number, a tie to the even one. -/
def roundQuotient (num den : Nat) : Nat :=
  let q := num / den
  let twice := 2 * (num % den)
  if twice > den ∨ (twice = den ∧ q % 2 = 1) then q + 1 else q

/-- The spacing of the values whose whole units are `n`: one unit for the small ones, so much that
53 bits remain for the others. -/
def spacingShift (n : Nat) : Nat := n.log2 - 52

/-- The quotient in units, rounded to a count with at most 53 significant bits. -/
def roundUnits (num den : Nat) : Nat :=
  let shift := spacingShift (num / den)
  roundQuotient num (den * Nat.pow 2 shift) * Nat.pow 2 shift

theorem roundQuotient_le (num den : Nat) : roundQuotient num den ≤ num / den + 1 := by
  unfold roundQuotient
  dsimp only
  split <;> omega

theorem quotient_shift_lt (num den : Nat) :
    num / (den * Nat.pow 2 (spacingShift (num / den))) < Nat.pow 2 53 := by
  rw [← Nat.div_div_eq_div_mul]
  generalize num / den = q
  have hpos : 0 < Nat.pow 2 (spacingShift q) := Nat.pow_pos (by decide)
  have hadd : Nat.pow 2 53 * Nat.pow 2 (spacingShift q) = Nat.pow 2 (53 + spacingShift q) :=
    (Nat.pow_add 2 53 _).symm
  rw [Nat.div_lt_iff_lt_mul hpos, hadd]
  refine Nat.lt_of_lt_of_le (Nat.lt_log2_self (n := q)) (Nat.pow_le_pow_right (by decide) ?_)
  unfold spacingShift
  omega

theorem representable_roundUnits {num den : Nat} (h : roundUnits num den < unitsLimit) :
    Representable (roundUnits num den) := by
  refine ⟨h, ?_⟩
  unfold roundUnits
  dsimp only
  generalize hs : spacingShift (num / den) = s
  have hlt := quotient_shift_lt num den
  rw [hs] at hlt
  have hle := roundQuotient_le num (den * Nat.pow 2 s)
  generalize hr : roundQuotient num (den * Nat.pow 2 s) = r at hle
  by_cases hk : r < Nat.pow 2 53
  · exact ⟨_, _, hk, rfl⟩
  · refine ⟨Nat.pow 2 52, s + 1, by decide, ?_⟩
    have hr53 : r = Nat.pow 2 52 * 2 := by
      have : Nat.pow 2 53 = Nat.pow 2 52 * 2 := by decide
      omega
    have hstep : Nat.pow 2 (s + 1) = 2 * Nat.pow 2 s := Nat.mul_comm _ _
    rw [hr53, hstep, Nat.mul_assoc]

/-- The value nearest to a quotient of units; past the largest one, infinity. -/
def ofUnits (negative : Bool) (num den : Nat) : Binary64 :=
  if h : roundUnits num den < unitsLimit then
    .finite negative (roundUnits num den) (representable_roundUnits h)
  else .infinity negative

/-- The value nearest to a quotient. -/
def ofRatio (negative : Bool) (num den : Nat) : Binary64 :=
  ofUnits negative (num * unitsOfOne) den

def ofNat (n : Nat) : Binary64 := ofRatio false n 1

/-- The value nearest to `digits * 10 ^ exponent`. -/
def ofDecimal (negative : Bool) (digits : Nat) (exponent : Int) : Binary64 :=
  let size : Int := (Nat.toDigits 10 digits).length + exponent
  if digits = 0 ∨ size < -400 then zero negative
  else if 400 < size then .infinity negative
  else if 0 ≤ exponent then ofRatio negative (digits * Nat.pow 10 exponent.toNat) 1
  else ofRatio negative digits (Nat.pow 10 (-exponent).toNat)

def negated : Binary64 → Binary64
  | .nan => .nan
  | .infinity n => .infinity (!n)
  | .finite n u h => .finite (!n) u h

/-- Every value but NaN as a number that orders it. Infinity stands past the largest value. -/
def rank : Binary64 → Option Int
  | .nan => none
  | .infinity n => some (if n then -(unitsLimit : Int) else unitsLimit)
  | .finite n u _ => some (if n then -(u : Int) else u)

/-- Is the first less than the second? Never, when either is NaN. -/
def lt (a b : Binary64) : Bool :=
  match a.rank, b.rank with
  | some x, some y => decide (x < y)
  | _, _ => false

def isFinite : Binary64 → Bool
  | .finite _ _ _ => true
  | _ => false

/-- The product of two magnitudes. -/
def mulFinite (negative : Bool) (a b : Nat) : Binary64 := ofUnits negative (a * b) unitsOfOne

/-- The quotient of two magnitudes. -/
def divFinite (negative : Bool) (a b : Nat) : Binary64 := ofUnits negative (a * unitsOfOne) b

/-- The quotient of two values. -/
def quotient : Binary64 → Binary64 → Binary64
  | .finite n a _, .finite m b _ =>
    if b = 0 then (if a = 0 then .nan else .infinity (n != m)) else divFinite (n != m) a b
  | .infinity n, .finite m _ _ => .infinity (n != m)
  | .finite n _ _, .infinity m => zero (n != m)
  | _, _ => .nan

end Binary64

end WaybillBoard
