import WaybillBoard.Proofs.Binary64.Shortest

/-!
Rounding keeps order. A quotient is not rounded past a multiple of the spacing there, such as a
value is; so a larger number has no smaller value, a part of a whole is at most one, and it is zero
only if it is empty.
-/

namespace WaybillBoard.Binary64

/-- Is the first at most the second? Never, when either is NaN. -/
def le (a b : Binary64) : Bool :=
  match a.rank, b.rank with
  | some x, some y => decide (x ≤ y)
  | _, _ => false

theorem le_eq_true_iff {a b : Binary64} :
    a.le b = true ↔ ∃ x y, a.rank = some x ∧ b.rank = some y ∧ x ≤ y := by
  unfold le
  cases a.rank <;> cases b.rank <;> simp

/-- What is not past a bound is not past a higher one, even if it is no number. -/
theorem lt_eq_false_of_le {low high x : Binary64} (h : low.le high = true)
    (hx : low.lt x = false) : high.lt x = false := by
  obtain ⟨a, b, ha, hb, hab⟩ := le_eq_true_iff.mp h
  unfold lt at hx ⊢
  rw [ha] at hx
  rw [hb]
  cases hrank : x.rank with
  | none => rfl
  | some c =>
      rw [hrank] at hx
      have hca : ¬ a < c := of_decide_eq_false hx
      exact decide_eq_false (by omega)

/-! ### Rounding -/

theorem div_le_roundQuotient (num den : Nat) : num / den ≤ roundQuotient num den := by
  unfold roundQuotient
  dsimp only
  split <;> omega

theorem roundQuotient_le_of_le {num den k : Nat} (hden : 0 < den) (h : num ≤ k * den) :
    roundQuotient num den ≤ k := by
  rcases Nat.lt_or_ge (num / den) k with hless | hmore
  · exact (roundQuotient_le num den).trans hless
  · have hle : k * den ≤ num :=
      (Nat.mul_le_mul_right den hmore).trans (Nat.div_mul_le_self num den)
    obtain rfl : num = k * den := Nat.le_antisymm h hle
    rw [roundQuotient_of_dvd hden (Nat.dvd_mul_left den k), Nat.mul_div_cancel k hden]

theorem le_roundQuotient {num den k : Nat} (hden : 0 < den) (h : k * den ≤ num) :
    k ≤ roundQuotient num den :=
  ((Nat.le_div_iff_mul_le hden).mpr h).trans (div_le_roundQuotient num den)

theorem roundQuotient_mono {a b : Nat} (h : a ≤ b) (den : Nat) :
    roundQuotient a den ≤ roundQuotient b den := by
  rcases Nat.lt_or_eq_of_le (Nat.div_le_div_right (c := den) h) with hless | hsame
  · exact (roundQuotient_le a den).trans (Nat.le_trans hless (div_le_roundQuotient b den))
  · have ha := Nat.div_add_mod a den
    have hb := Nat.div_add_mod b den
    have hmod : a % den ≤ b % den := by
      rw [hsame] at ha
      omega
    unfold roundQuotient
    dsimp only
    rw [hsame]
    split <;> split <;> omega

theorem roundUnits_le {num den units : Nat} (hden : 0 < den)
    (hdvd : Nat.pow 2 (spacingShift (num / den)) ∣ units) (h : num ≤ units * den) :
    roundUnits num den ≤ units := by
  unfold roundUnits
  dsimp only
  generalize hs : Nat.pow 2 (spacingShift (num / den)) = spacing at hdvd
  have hpos : 0 < spacing := hs ▸ Nat.pow_pos (by decide)
  obtain ⟨k, rfl⟩ := hdvd
  rw [Nat.mul_comm spacing k] at h ⊢
  rw [Nat.mul_assoc, Nat.mul_comm spacing den] at h
  exact Nat.mul_le_mul_right spacing (roundQuotient_le_of_le (Nat.mul_pos hden hpos) h)

theorem le_roundUnits {num den units : Nat} (hden : 0 < den)
    (hdvd : Nat.pow 2 (spacingShift (num / den)) ∣ units) (h : units * den ≤ num) :
    units ≤ roundUnits num den := by
  unfold roundUnits
  dsimp only
  generalize hs : Nat.pow 2 (spacingShift (num / den)) = spacing at hdvd
  have hpos : 0 < spacing := hs ▸ Nat.pow_pos (by decide)
  obtain ⟨k, rfl⟩ := hdvd
  rw [Nat.mul_comm spacing k] at h ⊢
  rw [Nat.mul_assoc, Nat.mul_comm spacing den] at h
  exact Nat.mul_le_mul_right spacing (le_roundQuotient (Nat.mul_pos hden hpos) h)

theorem spacing_dvd_pow {n k : Nat} (h : n.log2 ≤ k) :
    Nat.pow 2 (spacingShift n) ∣ Nat.pow 2 k := by
  refine Nat.pow_dvd_pow 2 ?_
  unfold spacingShift
  omega

/-- The leading bit of the whole units stays. -/
theorem pow_log2_le_roundUnits {num den : Nat} (hden : 0 < den) (h : den ≤ num) :
    Nat.pow 2 (num / den).log2 ≤ roundUnits num den := by
  refine le_roundUnits hden (spacing_dvd_pow (Nat.le_refl _)) ?_
  rw [← Nat.le_div_iff_mul_le hden]
  exact Nat.log2_self_le (Nat.ne_of_gt (Nat.div_pos h hden))

theorem roundUnits_pos {num den : Nat} (hden : 0 < den) (h : den ≤ num) :
    0 < roundUnits num den :=
  (Nat.pow_pos (by decide)).trans_le (pow_log2_le_roundUnits hden h)

theorem log2_mono {a b : Nat} (h : a ≤ b) : a.log2 ≤ b.log2 := by
  by_cases ha : a = 0
  · subst ha
    exact Nat.zero_le _
  · rw [Nat.le_log2 (by omega)]
    exact (Nat.log2_self_le ha).trans h

theorem roundUnits_mono {a b den : Nat} (hden : 0 < den) (h : a ≤ b) :
    roundUnits a den ≤ roundUnits b den := by
  by_cases hshift : spacingShift (a / den) = spacingShift (b / den)
  · unfold roundUnits
    dsimp only
    rw [hshift]
    exact Nat.mul_le_mul_right _ (roundQuotient_mono h _)
  · -- The spacing is wider at `b`, so the leading bit there has its own place.
    have hlog : (a / den).log2 < (b / den).log2 := by
      have hle := log2_mono (Nat.div_le_div_right (c := den) h)
      unfold spacingShift at hshift
      omega
    have hden_le : den ≤ b := by
      by_contra hsmall
      rw [Nat.div_eq_of_lt (Nat.lt_of_not_le hsmall)] at hlog
      exact Nat.not_lt_zero _ hlog
    have hbelow : a ≤ Nat.pow 2 (b / den).log2 * den := by
      have hpow : a / den < Nat.pow 2 (b / den).log2 :=
        Nat.lt_log2_self.trans_le (Nat.pow_le_pow_right (by decide) hlog)
      exact ((Nat.div_lt_iff_lt_mul hden).mp hpow).le
    exact (roundUnits_le hden (spacing_dvd_pow hlog.le) hbelow).trans
      (pow_log2_le_roundUnits hden hden_le)

/-! ### Counted numbers and their quotients -/

/-- A number in units, as near as they can count it. -/
def unitsOf (n : Nat) : Nat := roundUnits (n * unitsOfOne) 1

/-- One and the limit are powers of two, with more than 64 bits between them. The powers have names
here, or they would be computed. -/
theorem exists_powers :
    ∃ one limit, unitsOfOne = Nat.pow 2 one ∧ unitsLimit = Nat.pow 2 limit ∧ 64 + one < limit ∧
      limit ≤ one + one := by
  refine ⟨1074, 2098, unitsOfOne.eq_1, ?_, by decide, by decide⟩
  unfold unitsLimit
  rfl

theorem representable_pow {k limit : Nat} (hlimit : unitsLimit = Nat.pow 2 limit)
    (h : k < limit) : Representable (Nat.pow 2 k) :=
  ⟨hlimit ▸ Nat.pow_lt_pow_right (by decide) h, 1, k, by decide, (Nat.one_mul _).symm⟩

theorem representable_unitsOfOne : Representable unitsOfOne := by
  obtain ⟨one, limit, hone, hlimit, hbits, -⟩ := exists_powers
  rw [hone]
  exact representable_pow hlimit (by omega)

theorem unitsOfOne_pos : 0 < unitsOfOne := by
  obtain ⟨one, limit, hone, -⟩ := exists_powers
  exact hone ▸ Nat.pow_pos (by decide)

theorem unitsOf_zero : unitsOf 0 = 0 := by
  rw [unitsOf, Nat.zero_mul]
  exact roundUnits_one representable_zero

theorem unitsOf_one : unitsOf 1 = unitsOfOne := by
  rw [unitsOf, Nat.one_mul]
  exact roundUnits_one representable_unitsOfOne

theorem unitsOf_mono {a b : Nat} (h : a ≤ b) : unitsOf a ≤ unitsOf b :=
  roundUnits_mono Nat.one_pos (Nat.mul_le_mul_right unitsOfOne h)

theorem unitsOfOne_le {n : Nat} (h : 0 < n) : unitsOfOne ≤ unitsOf n := by
  rw [← unitsOf_one]
  exact unitsOf_mono h

theorem unitsLimit_le_sq : unitsLimit ≤ unitsOfOne * unitsOfOne := by
  obtain ⟨one, limit, hone, hlimit, -, hsq⟩ := exists_powers
  rw [hone, hlimit]
  exact (Nat.pow_le_pow_right Nat.two_pos hsq).trans_eq (Nat.pow_add 2 one one)

/-- What 64 bits can count is no infinity. -/
theorem unitsOf_lt_unitsLimit {n : Nat} (h : n < Nat.pow 2 64) : unitsOf n < unitsLimit := by
  obtain ⟨one, limit, hone, hlimit, hbits, -⟩ := exists_powers
  have hlt : Nat.pow 2 (64 + one) < unitsLimit :=
    hlimit ▸ Nat.pow_lt_pow_right (by decide) hbits
  have hpow : Nat.pow 2 64 * unitsOfOne = Nat.pow 2 (64 + one) :=
    hone ▸ (Nat.pow_add 2 64 one).symm
  refine (unitsOf_mono h.le).trans_lt ?_
  rw [unitsOf, hpow, roundUnits_one (representable_pow hlimit hbits)]
  exact hlt

theorem ofUnits_of_lt {num den : Nat} (h : roundUnits num den < unitsLimit) (negative : Bool) :
    ofUnits negative num den =
      .finite negative (roundUnits num den) (representable_roundUnits h) := dif_pos h

theorem ofUnits_of_le {num den : Nat} (h : unitsLimit ≤ roundUnits num den) (negative : Bool) :
    ofUnits negative num den = .infinity negative := dif_neg (Nat.not_lt.mpr h)

theorem ofNat_of_lt {n : Nat} (h : unitsOf n < unitsLimit) :
    ofNat n = .finite false (unitsOf n) (representable_roundUnits h) :=
  have hround : roundUnits (n * unitsOfOne) 1 < unitsLimit := h
  ofUnits_of_lt hround false

theorem ofNat_of_le {n : Nat} (h : unitsLimit ≤ unitsOf n) : ofNat n = .infinity false :=
  have hround : unitsLimit ≤ roundUnits (n * unitsOfOne) 1 := h
  ofUnits_of_le hround false

theorem rank_ofUnits (num den : Nat) :
    (ofUnits false num den).rank = some ((min (roundUnits num den) unitsLimit : Nat) : Int) := by
  rcases Nat.lt_or_ge (roundUnits num den) unitsLimit with h | h
  · rw [ofUnits_of_lt h, Nat.min_eq_left h.le]
    rfl
  · rw [ofUnits_of_le h, Nat.min_eq_right h]
    rfl

theorem rank_ofNat {n : Nat} (h : unitsOf n < unitsLimit) :
    (ofNat n).rank = some (unitsOf n : Int) := by
  rw [ofNat_of_lt h]
  rfl

theorem lt_of_rank {a b : Binary64} {x y : Nat} (ha : a.rank = some (x : Int))
    (hb : b.rank = some (y : Int)) : a.lt b = decide (x < y) := by
  unfold lt
  rw [ha, hb]
  simp only [Int.ofNat_lt]

/-- Dividing by what is no infinity. -/
theorem quotient_ofNat {a b : Nat} (hb : 0 < b) (ha_lt : unitsOf a < unitsLimit)
    (hb_lt : unitsOf b < unitsLimit) :
    (ofNat a).quotient (ofNat b) = ofUnits false (unitsOf a * unitsOfOne) (unitsOf b) := by
  have hpos : unitsOf b ≠ 0 := Nat.ne_of_gt (unitsOfOne_pos.trans_le (unitsOfOne_le hb))
  rw [ofNat_of_lt ha_lt, ofNat_of_lt hb_lt]
  exact if_neg hpos

/-- A number divided by infinity is zero, or NaN where it is infinite itself. -/
theorem quotient_infinity (a : Nat) :
    (ofNat a).quotient (.infinity false) = zero false ∨
      (ofNat a).quotient (.infinity false) = .nan := by
  rcases Nat.lt_or_ge (unitsOf a) unitsLimit with h | h
  · exact .inl (by rw [ofNat_of_lt h]; rfl)
  · exact .inr (by rw [ofNat_of_le h]; rfl)

theorem rank_one : (ofNat 1).rank = some (unitsOfOne : Int) := by
  have h := rank_ofNat (unitsOf_one.symm ▸ representable_unitsOfOne.1)
  rwa [unitsOf_one] at h

theorem rank_zero : (zero false).rank = some ((0 : Nat) : Int) := rfl

/-- A quotient is not rounded past a value. -/
theorem lt_quotient_eq_false {bound : Binary64} {units a b : Nat}
    (hbound : bound.rank = some (units : Int)) (hunits : Representable units) (h : a ≤ b)
    (hb : 0 < b) (hle : unitsOf a * unitsOfOne ≤ units * unitsOf b) :
    bound.lt ((ofNat a).quotient (ofNat b)) = false := by
  rcases Nat.lt_or_ge (unitsOf b) unitsLimit with hlt | hge
  · have hdiv : unitsOf a * unitsOfOne / unitsOf b ≤ units :=
      Nat.div_le_of_le_mul (hle.trans_eq (Nat.mul_comm ..))
    have hround := roundUnits_le (unitsOfOne_pos.trans_le (unitsOfOne_le hb))
      (spacing_dvd hunits hdiv) hle
    rw [quotient_ofNat hb ((unitsOf_mono h).trans_lt hlt) hlt, lt_of_rank hbound (rank_ofUnits ..)]
    exact decide_eq_false (Nat.not_lt.mpr ((Nat.min_le_left ..).trans hround))
  · rw [ofNat_of_le hge]
    rcases quotient_infinity a with hzero | hnan
    · rw [hzero, lt_of_rank hbound rank_zero]
      exact decide_eq_false (Nat.not_lt_zero _)
    · rw [hnan]
      unfold lt
      rw [hbound]
      rfl

/-- A part of a whole is not counted as more than one. -/
theorem one_lt_quotient_eq_false {a b : Nat} (h : a ≤ b) (hb : 0 < b) :
    (ofNat 1).lt ((ofNat a).quotient (ofNat b)) = false := by
  refine lt_quotient_eq_false rank_one representable_unitsOfOne h hb ?_
  rw [Nat.mul_comm]
  exact Nat.mul_le_mul_left _ (unitsOf_mono h)

/-- An empty part is not counted as more than nothing. -/
theorem zero_lt_quotient_zero_eq_false {b : Nat} (hb : 0 < b) :
    (zero false).lt ((ofNat 0).quotient (ofNat b)) = false := by
  refine lt_quotient_eq_false rank_zero representable_zero b.zero_le hb ?_
  rw [unitsOf_zero, Nat.zero_mul, Nat.zero_mul]

/-- Any other part is counted as more than nothing, unless the whole is infinite. -/
theorem zero_lt_quotient {a b : Nat} (ha : 0 < a) (h : a ≤ b) (hb : unitsOf b < unitsLimit) :
    (zero false).lt ((ofNat a).quotient (ofNat b)) = true := by
  have hpos : 0 < unitsOf b := unitsOfOne_pos.trans_le (unitsOfOne_le (ha.trans_le h))
  have hle : unitsOf b ≤ unitsOf a * unitsOfOne :=
    hb.le.trans (unitsLimit_le_sq.trans (Nat.mul_le_mul_right _ (unitsOfOne_le ha)))
  have hunits := roundUnits_pos hpos hle
  have hlimit : 0 < unitsLimit := unitsOfOne_pos.trans representable_unitsOfOne.1
  rw [quotient_ofNat (ha.trans_le h) ((unitsOf_mono h).trans_lt hb) hb,
    lt_of_rank rank_zero (rank_ofUnits ..)]
  exact decide_eq_true (Nat.lt_min.mpr ⟨hunits, hlimit⟩)

end WaybillBoard.Binary64
