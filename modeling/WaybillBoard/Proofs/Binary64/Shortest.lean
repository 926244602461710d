import Mathlib.Tactic.Ring
import WaybillBoard.Binary64.Shortest
import WaybillBoard.Proofs.Text.Digits

/-!
The shortest decimal of a value reads back as that value. Reading a decimal does not depend on
zeros at its end, and a value whose expansion is written in full is read without rounding.
-/

namespace WaybillBoard.Binary64

open Text (natDigits)

theorem roundQuotient_mul (num den : Nat) {k : Nat} (hk : 0 < k) :
    roundQuotient (num * k) (den * k) = roundQuotient num den := by
  have htwice : 2 * (num % den * k) = 2 * (num % den) * k := (Nat.mul_assoc _ _ _).symm
  simp only [roundQuotient, Nat.mul_div_mul_right _ _ hk, Nat.mul_mod_mul_right, htwice, gt_iff_lt,
    Nat.mul_lt_mul_right hk, Nat.mul_left_inj (Nat.ne_of_gt hk)]

theorem roundUnits_mul (num den : Nat) {k : Nat} (hk : 0 < k) :
    roundUnits (num * k) (den * k) = roundUnits num den := by
  simp only [roundUnits, Nat.mul_div_mul_right _ _ hk, Nat.mul_right_comm den k,
    roundQuotient_mul _ _ hk]

theorem ofRatio_mul (negative : Bool) (num den : Nat) {k : Nat} (hk : 0 < k) :
    ofRatio negative (num * k) (den * k) = ofRatio negative num den := by
  simp only [ofRatio, ofUnits, Nat.mul_right_comm num k, roundUnits_mul _ _ hk]

/-- The value nearest to a decimal of moderate size. -/
def ofScaled (negative : Bool) (digits : Nat) (exponent : Int) : Binary64 :=
  if 0 ≤ exponent then ofRatio negative (digits * Nat.pow 10 exponent.toNat) 1
  else ofRatio negative digits (Nat.pow 10 (-exponent).toNat)

theorem ofScaled_mul_ten (negative : Bool) (digits : Nat) (exponent : Int) :
    ofScaled negative (digits * 10) (exponent - 1) = ofScaled negative digits exponent := by
  -- At zero the power of ten goes from one side of the fraction to the other.
  rcases Int.lt_trichotomy exponent 0 with hless | rfl | hmore
  · have hpow : Nat.pow 10 (-(exponent - 1)).toNat = Nat.pow 10 (-exponent).toNat * 10 := by
      rw [show (-(exponent - 1)).toNat = (-exponent).toNat + 1 by omega]
      rfl
    rw [ofScaled, if_neg (by omega), ofScaled, if_neg (by omega), hpow,
      ofRatio_mul _ _ _ (by decide)]
  · rw [ofScaled, if_neg (by decide), ofScaled, if_pos (by decide)]
    exact (ofRatio_mul negative digits 1 (by decide)).trans
      (congrArg (ofRatio negative · 1) (Nat.mul_one digits).symm)
  · have hpow : Nat.pow 10 exponent.toNat = Nat.pow 10 (exponent - 1).toNat * 10 := by
      rw [show exponent.toNat = (exponent - 1).toNat + 1 by omega]
      rfl
    rw [ofScaled, if_pos (by omega), ofScaled, if_pos (by omega), hpow, Nat.mul_assoc,
      Nat.mul_comm 10]

/-- A zero at the end of the digits is worth one in the exponent. -/
theorem ofDecimal_mul_ten (negative : Bool) {digits : Nat} (hdigits : digits ≠ 0)
    (exponent : Int) :
    ofDecimal negative (digits * 10) (exponent - 1) = ofDecimal negative digits exponent := by
  have hlength : (Nat.toDigits 10 (digits * 10)).length = (Nat.toDigits 10 digits).length + 1 := by
    have h := Text.natDigits_of_le (n := digits * 10) (by omega)
    rw [Nat.mul_div_cancel _ (by decide), Nat.mul_mod_left] at h
    exact (congrArg List.length h).trans (List.length_append ..)
  have hsize : ((Nat.toDigits 10 (digits * 10)).length : Int) + (exponent - 1) =
      (Nat.toDigits 10 digits).length + exponent := by
    rw [hlength]
    omega
  have hzero : digits * 10 = 0 ↔ digits = 0 := by omega
  have hscaled := ofScaled_mul_ten negative digits exponent
  simp only [ofScaled] at hscaled
  simp only [ofDecimal, hsize, hzero, hscaled]

/-- The sign goes from the text to the value. -/
theorem ofDecimal_eq_finite {digits : Nat} {exponent : Int} {sign : Bool} {units : Nat}
    {h : Representable units} (hread : ofDecimal false digits exponent = .finite sign units h)
    (negative : Bool) : ofDecimal negative digits exponent = .finite negative units h := by
  have hunits {num den : Nat} (hread : ofRatio false num den = .finite sign units h) :
      ofRatio negative num den = .finite negative units h := by
    rw [ofRatio, ofUnits] at hread ⊢
    split at hread
    · next hlt =>
        rw [dif_pos hlt]
        cases hread
        rfl
    · cases hread
  simp only [ofDecimal] at hread ⊢
  split at hread
  · next hzero =>
      rw [if_pos hzero]
      cases hread
      rfl
  · next hzero =>
      rw [if_neg hzero]
      split at hread
      · cases hread
      · next hsize =>
          rw [if_neg hsize]
          split at hread
          · next hexponent =>
              rw [if_pos hexponent]
              exact hunits hread
          · next hexponent =>
              rw [if_neg hexponent]
              exact hunits hread

theorem ofDecimal_dropZeros (negative : Bool) (fuel : Nat) (d : Decimal) :
    ofDecimal negative (dropZeros fuel d).digits (dropZeros fuel d).exponent =
      ofDecimal negative d.digits d.exponent := by
  induction fuel generalizing d with
  | zero => rfl
  | succ fuel ih =>
      rw [dropZeros]
      split
      · next h =>
          obtain ⟨hne, hmod⟩ := h
          have hdigits : d.digits / 10 * 10 = d.digits := by omega
          have hne' : d.digits / 10 ≠ 0 := by omega
          rw [ih, ← ofDecimal_mul_ten negative hne', hdigits, Int.add_sub_cancel]
      · rfl

theorem roundQuotient_of_dvd {num den : Nat} (hden : 0 < den) (h : den ∣ num) :
    roundQuotient num den = num / den := by
  have hmod : num % den = 0 := Nat.mod_eq_zero_of_dvd h
  rw [roundQuotient, hmod]
  exact if_neg (by omega)

/-- What can be counted is a multiple of the spacing up to there. -/
theorem spacing_dvd {n units : Nat} (h : Representable units) (hle : n ≤ units) :
    Nat.pow 2 (spacingShift n) ∣ units := by
  obtain ⟨-, significand, shift, hlt, heq⟩ := h
  have hlog : n.log2 < 53 + shift := by
    by_cases hzero : n = 0
    · rw [hzero, Nat.log2_zero]
      omega
    · rw [Nat.log2_lt hzero, Nat.pow_add]
      exact hle.trans_lt (heq ▸ Nat.mul_lt_mul_of_pos_right hlt (Nat.pow_pos (by decide)))
  have hpow : Nat.pow 2 (spacingShift n) ∣ Nat.pow 2 shift :=
    Nat.pow_dvd_pow 2 (by rw [spacingShift]; omega)
  exact hpow.trans ⟨significand, heq.trans (Nat.mul_comm ..)⟩

/-- What can be counted is not rounded. -/
theorem roundUnits_one {units : Nat} (h : Representable units) : roundUnits units 1 = units := by
  have hdvd := spacing_dvd h (Nat.le_refl units)
  have hpos : 0 < Nat.pow 2 (spacingShift units) := Nat.pow_pos (by decide)
  simp only [roundUnits, Nat.div_one, Nat.one_mul, roundQuotient_of_dvd hpos hdvd]
  exact Nat.div_mul_cancel hdvd

theorem ofUnits_one {units : Nat} (h : Representable units) (negative : Bool) :
    ofUnits negative units 1 = .finite negative units h := by
  have hround := roundUnits_one h
  rw [ofUnits, dif_pos (hround.symm ▸ h.1)]
  simp only [hround]

theorem ofRatio_pow {units k : Nat} (h : Representable units) (hk : unitsOfOne = Nat.pow 2 k)
    (negative : Bool) :
    ofRatio negative (units * Nat.pow 5 k) (Nat.pow 10 k) = .finite negative units h := by
  have hten : Nat.pow 10 k = Nat.pow 5 k * Nat.pow 2 k := Nat.mul_pow 5 2 k
  have hpos : 0 < Nat.pow 10 k := Nat.pow_pos (by decide)
  rw [ofRatio, hk, Nat.mul_assoc, ← hten, ← ofUnits_one h negative, ofUnits, ofUnits]
  have hround := roundUnits_mul units 1 hpos
  rw [Nat.one_mul] at hround
  simp only [hround]

theorem length_digits_le_iff {n k : Nat} (hk : 0 < k) :
    (Nat.toDigits 10 n).length ≤ k ↔ n < Nat.pow 10 k :=
  Nat.length_toDigits_le_iff (by decide) hk

/-- An expansion has so many digits that it is neither too small nor too large to be read. -/
theorem length_expansion {units k low high : Nat} (hne : units ≠ 0) (hlt : units < unitsLimit)
    (hlow : Nat.pow 10 low ≤ Nat.pow 5 k) (hhigh : unitsLimit * Nat.pow 5 k ≤ Nat.pow 10 high)
    (hpositive : 0 < low ∧ 0 < high) :
    low < (Nat.toDigits 10 (units * Nat.pow 5 k)).length ∧
      (Nat.toDigits 10 (units * Nat.pow 5 k)).length ≤ high := by
  constructor
  · have hle := hlow.trans (Nat.le_mul_of_pos_left _ (Nat.pos_of_ne_zero hne))
    rw [← Nat.not_lt, ← length_digits_le_iff hpositive.1] at hle
    exact Nat.lt_of_not_le hle
  · rw [length_digits_le_iff hpositive.2]
    exact Nat.lt_of_lt_of_le (Nat.mul_lt_mul_of_pos_right hlt (Nat.pow_pos (by decide))) hhigh

theorem ofDecimal_expansion {units : Nat} (h : Representable units) (hne : units ≠ 0)
    (negative : Bool) :
    ofDecimal negative (expansion units).digits (expansion units).exponent =
      .finite negative units h := by
  -- The power has a name here, or it would be computed.
  obtain ⟨k, hk, hexpansion, hone⟩ : ∃ k : Nat, k = 1074 ∧
      expansion units = ⟨units * Nat.pow 5 k, -k⟩ ∧ unitsOfOne = Nat.pow 2 k :=
    ⟨1074, rfl, expansion.eq_1 units, unitsOfOne.eq_1⟩
  obtain ⟨hlow, hhigh⟩ : 673 < (Nat.toDigits 10 (units * Nat.pow 5 k)).length ∧
      (Nat.toDigits 10 (units * Nat.pow 5 k)).length ≤ 1474 := by
    refine length_expansion hne h.1 ?_ ?_ (by decide) <;> subst hk <;> decide +kernel
  have hdigits : units * Nat.pow 5 k ≠ 0 :=
    Nat.mul_ne_zero hne (Nat.ne_of_gt (Nat.pow_pos (by decide)))
  simp only [hexpansion]
  rw [ofDecimal, if_neg (by omega), if_neg (by omega), if_neg (by omega), Int.neg_neg,
    Int.toNat_natCast]
  exact ofRatio_pow h hone negative

theorem readsAs_of_withDigits {units count : Nat} {d : Decimal}
    (h : withDigits units count = some d) : readsAs units d = true := by
  unfold withDigits at h
  dsimp only at h
  exact List.find?_some h

/-- The shortest decimal reads back. -/
theorem ofDecimal_shortest {units : Nat} (h : Representable units) (negative : Bool) :
    ofDecimal negative (shortest units).digits (shortest units).exponent =
      .finite negative units h := by
  unfold shortest
  split
  · next hzero =>
      subst hzero
      rfl
  · next hne =>
      split
      · next d hd =>
          rw [ofDecimal_dropZeros]
          obtain ⟨count, -, hcount⟩ := List.exists_of_findSome?_eq_some hd
          have hreads := readsAs_of_withDigits hcount
          unfold readsAs at hreads
          split at hreads
          · next sign u hu hread =>
              obtain rfl := beq_iff_eq.mp hreads
              exact ofDecimal_eq_finite hread negative
          · cases hreads
      · exact ofDecimal_expansion h hne negative

end WaybillBoard.Binary64
