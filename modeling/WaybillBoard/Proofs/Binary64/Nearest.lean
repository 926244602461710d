import WaybillBoard.Proofs.Binary64.Order

/-!
The whole number nearest to a quotient, and when a quotient that was already rounded, to a spacing
fine enough, has the same one.
-/

namespace WaybillBoard.Binary64

/-- The whole number nearest to a quotient, the even one of two as near. -/
structure IsNearest (num : Int) (den : Nat) (k : Int) : Prop where
  near : 2 * (num - k * den).natAbs ≤ den
  even_of_tie : 2 * (num - k * den).natAbs = den → k % 2 = 0

theorem IsNearest.unique {num k k' : Int} {den : Nat} (hden : 0 < den) (h : IsNearest num den k)
    (h' : IsNearest num den k') : k = k' := by
  have hnear := h.near
  have hnear' := h'.near
  have hdistance : (k - k') * den = (num - k' * den) - (num - k * den) := by ring
  by_contra hne
  have hone : (k - k').natAbs * den ≤ 1 * den := by
    rw [← Int.natAbs_natCast den, ← Int.natAbs_mul, Int.natAbs_natCast, hdistance]
    omega
  -- they are neighbours, both half a denominator away, and only one of them is even
  have hneighbours : (k - k').natAbs = 1 := by
    have := Nat.le_of_mul_le_mul_right hone hden
    omega
  have htie : ((k - k') * den).natAbs = den := by
    rw [Int.natAbs_mul, hneighbours, Nat.one_mul, Int.natAbs_natCast]
  have heven := h.even_of_tie (by omega)
  have heven' := h'.even_of_tie (by omega)
  omega

theorem IsNearest.neg {num k : Int} {den : Nat} (h : IsNearest num den k) :
    IsNearest (-num) den (-k) := by
  have hdistance : -num - -k * den = -(num - k * den) := by ring
  have hnear := h.near
  have heven := h.even_of_tie
  constructor
  · rw [hdistance, Int.natAbs_neg]
    exact hnear
  · rw [hdistance, Int.natAbs_neg]
    intro htie
    have := heven htie
    omega

/-- Rounded up past the half and, at an odd quotient, on it. -/
theorem roundQuotient_cases (num den : Nat) :
    (den < 2 * (num % den) ∨ 2 * (num % den) = den ∧ num / den % 2 = 1) ∧
        roundQuotient num den = num / den + 1 ∨
      (2 * (num % den) < den ∨ 2 * (num % den) = den ∧ num / den % 2 = 0) ∧
        roundQuotient num den = num / den := by
  unfold roundQuotient
  dsimp only
  split <;> omega

theorem isNearest_roundQuotient (num : Nat) {den : Nat} (hden : 0 < den) :
    IsNearest num den (roundQuotient num den) := by
  have hlt := Nat.mod_lt num hden
  have hnum : (num : Int) = (num / den : Nat) * den + (num % den : Nat) := by
    exact_mod_cast (Nat.div_add_mod' num den).symm
  rcases roundQuotient_cases num den with ⟨hup, heq⟩ | ⟨hdown, heq⟩
  · have hdistance : (num : Int) - (num / den + 1 : Nat) * den = (num % den : Nat) - den := by
      rw [hnum]
      push_cast
      ring
    constructor <;> rw [heq, hdistance] <;> omega
  · have hdistance : (num : Int) - (num / den : Nat) * den = (num % den : Nat) := by
      omega
    constructor <;> rw [heq, hdistance] <;> omega

theorem roundQuotient_eq_of_isNearest {num den k : Nat} (hden : 0 < den)
    (h : IsNearest num den k) : roundQuotient num den = k :=
  Int.ofNat_inj.mp ((isNearest_roundQuotient num hden).unique hden h)

/-- A quotient rounded to parts of one, an even number of them and more than half the denominator,
stays on its side of every half. -/
theorem IsNearest.of_fine {num r k : Int} {d h : Nat} (hd : 0 < d) (hfine : d < 2 * h)
    (hr : IsNearest (num * (2 * h : Nat)) (2 * d) r) (hk : IsNearest num (2 * d) k) :
    IsNearest r (2 * h) k := by
  have hparts : (num * (2 * h : Nat) - r * (2 * d : Nat)).natAbs ≤ d := by
    have := hr.near
    omega
  have hwhole : (num - k * (2 * d : Nat)).natAbs ≤ d := by
    have := hk.near
    omega
  have hbound : 2 * d * (r - k * (2 * h : Nat)).natAbs ≤
      2 * h * (num - k * (2 * d : Nat)).natAbs + d := by
    have hdistance : ((2 * d : Nat) : Int) * (r - k * (2 * h : Nat)) =
        (2 * h : Nat) * (num - k * (2 * d : Nat)) - (num * (2 * h : Nat) - r * (2 * d : Nat)) := by
      ring
    have htriangle := Int.natAbs_sub_le ((2 * h : Nat) * (num - k * (2 * d : Nat)))
      (num * (2 * h : Nat) - r * (2 * d : Nat))
    rw [← hdistance, Int.natAbs_mul, Int.natAbs_mul, Int.natAbs_natCast, Int.natAbs_natCast]
      at htriangle
    exact htriangle.trans (Nat.add_le_add_left hparts _)
  rcases Nat.lt_or_eq_of_le hwhole with hless | htie
  · have hstep : 2 * h * (num - k * (2 * d : Nat)).natAbs + 2 * h ≤ 2 * h * d :=
      Nat.mul_le_mul_left (2 * h) hless
    have hnear : (r - k * (2 * h : Nat)).natAbs < h := by
      refine Nat.lt_of_mul_lt_mul_left (a := 2 * d) ?_
      rw [Nat.mul_right_comm 2 d h]
      omega
    exact ⟨by omega, fun _ => by omega⟩
  · have hnear : (r - k * (2 * h : Nat)).natAbs < h + 1 := by
      refine Nat.lt_of_mul_lt_mul_left (a := 2 * d) ?_
      rw [htie] at hbound
      rw [Nat.mul_add, Nat.mul_right_comm 2 d h]
      omega
    exact ⟨by omega, fun _ => hk.even_of_tie (by omega)⟩

/-! ### Numbers counted in units -/

theorem log2_mul_pow {n : Nat} (hn : n ≠ 0) (k : Nat) : (n * Nat.pow 2 k).log2 = n.log2 + k := by
  have hpos : 0 < Nat.pow 2 k := Nat.pow_pos Nat.two_pos
  rw [Nat.log2_eq_iff (Nat.mul_ne_zero hn (Nat.ne_of_gt hpos)), Nat.add_right_comm, Nat.pow_add,
    Nat.pow_add 2 (n.log2 + 1)]
  exact ⟨Nat.mul_le_mul_right _ (Nat.log2_self_le hn),
    Nat.mul_lt_mul_of_pos_right Nat.lt_log2_self hpos⟩

theorem representable_mul_pow {n k limit : Nat} (h : n < Nat.pow 2 53)
    (hlimit : unitsLimit = Nat.pow 2 limit) (hk : 53 + k ≤ limit) :
    Representable (n * Nat.pow 2 k) := by
  refine ⟨?_, n, k, h, rfl⟩
  have hlt : n * Nat.pow 2 k < Nat.pow 2 53 * Nat.pow 2 k :=
    Nat.mul_lt_mul_of_pos_right h (Nat.pow_pos Nat.two_pos)
  have hpow : Nat.pow 2 53 * Nat.pow 2 k = Nat.pow 2 (53 + k) := (Nat.pow_add 2 53 k).symm
  rw [hpow] at hlt
  rw [hlimit]
  exact hlt.trans_le (Nat.pow_le_pow_right Nat.two_pos hk)

theorem roundUnits_of_lt {n : Nat} (h : n < Nat.pow 2 53) : roundUnits n 1 = n := by
  obtain ⟨one, limit, -, hlimit, hbits, -⟩ := exists_powers
  have hrepresentable := representable_mul_pow (k := 0) h hlimit (by omega)
  rw [show n * Nat.pow 2 0 = n from Nat.mul_one n] at hrepresentable
  exact roundUnits_one hrepresentable

/-- The first numbers with 54 bits are rounded to even ones. -/
theorem roundUnits_of_le {n : Nat} (hle : Nat.pow 2 53 ≤ n) (hlt : n < Nat.pow 2 54) :
    roundUnits n 1 = roundQuotient n 2 * 2 := by
  have hne : n ≠ 0 := Nat.ne_of_gt (Nat.lt_of_lt_of_le (by decide) hle)
  have hlog : n.log2 = 53 := (Nat.log2_eq_iff hne).mpr ⟨hle, hlt⟩
  simp only [roundUnits, spacingShift, Nat.div_one, Nat.one_mul, hlog]

/-- Rounding in units is rounding in ones. -/
theorem unitsOf_eq (n : Nat) : unitsOf n = roundUnits n 1 * unitsOfOne := by
  obtain ⟨one, limit, hone, hlimit, hbits, -⟩ := exists_powers
  rcases Nat.lt_or_ge n (Nat.pow 2 53) with hsmall | hlarge
  · rw [roundUnits_of_lt hsmall, unitsOf, hone]
    exact roundUnits_one (representable_mul_pow hsmall hlimit (by omega))
  · have hne : n ≠ 0 := Nat.ne_of_gt (Nat.lt_of_lt_of_le (by decide) hlarge)
    have hpos : 0 < Nat.pow 2 one := Nat.pow_pos Nat.two_pos
    have hshift : spacingShift (n * Nat.pow 2 one) = spacingShift n + one := by
      have hlog := log2_mul_pow hne one
      have hbits : 53 ≤ n.log2 := (Nat.le_log2 hne).mpr hlarge
      unfold spacingShift
      omega
    have hpow : Nat.pow 2 (spacingShift n + one) = Nat.pow 2 (spacingShift n) * Nat.pow 2 one :=
      Nat.pow_add 2 _ _
    rw [unitsOf, hone]
    simp only [roundUnits, Nat.div_one, Nat.one_mul]
    rw [hshift, hpow, roundQuotient_mul _ _ hpos, Nat.mul_assoc]

/-- At thousandths of less than `2 ^ 44` the spacing goes into one so often that it is finer than a
thousandth. -/
theorem exists_parts {n : Nat} (h : n < Nat.pow 2 44 * 1000) : ∃ half, 500 < 2 * half ∧
    unitsOfOne = 2 * half * Nat.pow 2 (spacingShift (n * unitsOfOne / 1000)) := by
  obtain ⟨one, limit, hone, -, hbits, hsq⟩ := exists_powers
  have hlog : (n * unitsOfOne / 1000).log2 < one + 44 := by
    by_cases hzero : n * unitsOfOne / 1000 = 0
    · rw [hzero, Nat.log2_zero]
      omega
    · have hlt : n * Nat.pow 2 one < Nat.pow 2 44 * 1000 * Nat.pow 2 one :=
        Nat.mul_lt_mul_of_pos_right h (Nat.pow_pos Nat.two_pos)
      have hpow : Nat.pow 2 44 * 1000 * Nat.pow 2 one = 2 ^ (one + 44) * 1000 := by
        rw [Nat.mul_right_comm, Nat.mul_comm (Nat.pow 2 44), Nat.pow_add]
        rfl
      rw [Nat.log2_lt hzero, Nat.div_lt_iff_lt_mul (by decide), ← hpow, hone]
      exact hlt
  generalize hshift : spacingShift (n * unitsOfOne / 1000) = shift
  have hle : shift + 9 ≤ one := by
    unfold spacingShift at hshift
    omega
  refine ⟨2 ^ (one - shift - 1), ?_, ?_⟩
  · have hpow : 2 ^ 8 ≤ 2 ^ (one - shift - 1) := Nat.pow_le_pow_right Nat.two_pos (by omega)
    omega
  · have hpow : 2 ^ (1 + (one - shift - 1) + shift) = 2 * 2 ^ (one - shift - 1) * 2 ^ shift := by
      rw [Nat.pow_add, Nat.pow_add, Nat.pow_one]
    rw [show 1 + (one - shift - 1) + shift = one by omega] at hpow
    exact hone.trans hpow

/-- Thousandths that are rounded to a value first have the same nearest whole number. -/
theorem roundQuotient_roundUnits {n : Nat} (h : n < Nat.pow 2 44 * 1000) :
    roundQuotient (roundUnits (n * unitsOfOne) 1000) unitsOfOne = roundQuotient n 1000 := by
  obtain ⟨half, hfine, hparts⟩ := exists_parts h
  have hpos : 0 < Nat.pow 2 (spacingShift (n * unitsOfOne / 1000)) := Nat.pow_pos Nat.two_pos
  unfold roundUnits
  dsimp only
  generalize Nat.pow 2 (spacingShift (n * unitsOfOne / 1000)) = spacing at hparts hpos ⊢
  rw [hparts, ← Nat.mul_assoc, roundQuotient_mul _ _ hpos, roundQuotient_mul _ _ hpos]
  have hfraction : IsNearest (n * (2 * half : Nat)) (2 * 500)
      (roundQuotient (n * (2 * half)) 1000) := by
    exact_mod_cast isNearest_roundQuotient (n * (2 * half)) (by decide)
  have hwhole : IsNearest n (2 * 500) (roundQuotient n 1000) :=
    isNearest_roundQuotient n (by decide)
  exact roundQuotient_eq_of_isNearest (by omega) (hfraction.of_fine (by decide) hfine hwhole)

end WaybillBoard.Binary64
