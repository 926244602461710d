import WaybillBoard.Binary64.Layout
import WaybillBoard.Binary64.Reader
import WaybillBoard.Proofs.Binary64.Shortest

/-!
A value is read back from its text, in any layout.
-/

namespace WaybillBoard

namespace Text

theorem digitsValue_zeros (k : Nat) (cs : List Char) :
    digitsValue (List.replicate k '0' ++ cs) = digitsValue cs := by
  rw [digitsValue_eq, Nat.ofDigitChars_append, Nat.ofDigitChars_replicate_zero, Nat.mul_zero,
    ← digitsValue_eq]

theorem digitsValue_append_zeros (cs : List Char) (k : Nat) :
    digitsValue (cs ++ List.replicate k '0') = digitsValue cs * 10 ^ k := by
  rw [digitsValue_eq, Nat.ofDigitChars_append, Nat.ofDigitChars_replicate_zero, ← digitsValue_eq,
    Nat.mul_comm]

theorem takeWhile_number {digits rest : List Char} (h : ∀ c ∈ digits, isDigit c = true)
    (hends : EndsNumber rest) : (digits ++ rest).takeWhile isDigit = digits := by
  have hrest := takeWhile_take_of_endsNumber hends rest.length
  rw [List.take_length] at hrest
  rw [List.takeWhile_append_of_pos h, hrest, List.append_nil]

theorem dropWhile_number {digits rest : List Char} (h : ∀ c ∈ digits, isDigit c = true)
    (hends : EndsNumber rest) : (digits ++ rest).dropWhile isDigit = rest := by
  have happend := List.takeWhile_append_dropWhile (p := isDigit) (l := digits ++ rest)
  rwa [takeWhile_number h hends, List.append_cancel_left_eq] at happend

end Text

namespace Binary64

open Text (natDigits isDigit digitsValue isDigit_of_mem_natDigits digitsValue_natDigits)

theorem ofDecimal_mul_pow (negative : Bool) (digits k : Nat) (exponent : Int) :
    ofDecimal negative (digits * 10 ^ k) (exponent - k) = ofDecimal negative digits exponent := by
  by_cases hzero : digits = 0
  · simp [hzero, ofDecimal]
  · induction k generalizing exponent with
    | zero => simp
    | succ k ih =>
        have hne : digits * 10 ^ k ≠ 0 :=
          Nat.mul_ne_zero hzero (Nat.ne_of_gt (Nat.pow_pos (by decide)))
        rw [Nat.pow_succ, ← Nat.mul_assoc, ← ih exponent, ← ofDecimal_mul_ten negative hne,
          Int.natCast_succ, Int.sub_sub]

/-- A number without a point. -/
theorem unsigned?_whole (whole rest : List Char) {e : Int} (hne : whole ≠ [])
    (hwhole : ∀ c ∈ whole, isDigit c = true) (hrest : exponentPart? rest = some e)
    (hends : Text.EndsNumber rest) (hpoint : rest.head? ≠ some '.') (negative : Bool) :
    unsigned? negative (whole ++ rest) = some (ofDecimal negative (digitsValue whole) e) := by
  have hempty : whole.isEmpty = false := List.isEmpty_eq_false_iff.mpr hne
  rw [unsigned?, Text.takeWhile_number hwhole hends, Text.dropWhile_number hwhole hends]
  split
  · next fraction more heq =>
      split at heq
      · next more' => exact absurd rfl hpoint
      · cases heq
        simp [hempty, hrest]

/-- A number with digits before the point. -/
theorem unsigned?_point (whole fraction rest : List Char) {e : Int} (hne : whole ≠ [])
    (hwhole : ∀ c ∈ whole, isDigit c = true) (hfraction : ∀ c ∈ fraction, isDigit c = true)
    (hrest : exponentPart? rest = some e) (hends : Text.EndsNumber rest) (negative : Bool) :
    unsigned? negative (whole ++ '.' :: (fraction ++ rest)) =
      some (ofDecimal negative (digitsValue (whole ++ fraction)) (e - fraction.length)) := by
  have hempty : whole.isEmpty = false := List.isEmpty_eq_false_iff.mpr hne
  have hpoint := Text.endsNumber_cons (c := '.') (by decide) (fraction ++ rest)
  rw [unsigned?, Text.takeWhile_number hwhole hpoint, Text.dropWhile_number hwhole hpoint]
  simp only [Text.takeWhile_number hfraction hends, Text.dropWhile_number hfraction hends, hempty,
    Bool.false_and, Bool.false_eq_true, if_false, hrest, Option.map_some]

theorem isDigit_of_mem_zeros {k : Nat} {c : Char} (h : c ∈ List.replicate k '0') :
    isDigit c = true := List.eq_of_mem_replicate h ▸ rfl

/-! ### Exponents -/

theorem takeSign_of_isDigit {c : Char} (h : isDigit c = true) (cs : List Char) :
    takeSign (c :: cs) = (false, c :: cs) := by
  unfold takeSign
  split
  · next heq =>
      cases heq
      cases h
  · next heq =>
      cases heq
      cases h
  · rfl

theorem takeSign_natDigits (n : Nat) : takeSign (natDigits n) = (false, natDigits n) := by
  obtain ⟨c, cs, hcs⟩ := List.exists_cons_of_ne_nil (Text.natDigits_ne_nil n)
  have hdigit : isDigit c = true := isDigit_of_mem_natDigits (hcs ▸ List.mem_cons_self)
  rw [hcs, takeSign_of_isDigit hdigit]

theorem exponent?_of_takeSign (negative : Bool) (n : Nat) {cs : List Char}
    (h : takeSign cs = (negative, natDigits n)) :
    exponent? cs = some (if negative then -(n : Int) else n) := by
  have hempty : (natDigits n).isEmpty = false :=
    List.isEmpty_eq_false_iff.mpr (Text.natDigits_ne_nil n)
  have hall : (natDigits n).all isDigit = true :=
    List.all_eq_true.mpr fun _ => isDigit_of_mem_natDigits
  rw [exponent?, h]
  simp only [hempty, hall, Bool.not_true, Bool.or_self, Bool.false_eq_true, if_false,
    digitsValue_natDigits]

theorem exponent?_intDigits (n : Int) : exponent? (intDigits n) = some n := by
  unfold intDigits
  split
  · next h =>
      rw [exponent?_of_takeSign true n.natAbs rfl]
      exact congrArg some (by simp only [if_true]; omega)
  · next h =>
      rw [exponent?_of_takeSign _ _ (takeSign_natDigits _)]
      exact congrArg some (by simp only [Bool.false_eq_true, if_false]; omega)

theorem exponent?_plus {n : Int} (h : 0 ≤ n) : exponent? ('+' :: intDigits n) = some n := by
  rw [intDigits, if_neg (by omega), exponent?_of_takeSign false n.natAbs rfl]
  exact congrArg some (by simp only [Bool.false_eq_true, if_false]; omega)

section Layouts

variable {digits : List Char} (hdigits : ∀ c ∈ digits, isDigit c = true) (hne : digits ≠ [])
include hdigits

/-- All digits stand behind the point. -/
theorem unsigned?_small (zeros : Nat) (negative : Bool) :
    unsigned? negative ('0' :: '.' :: (List.replicate zeros '0' ++ digits)) =
      some (ofDecimal negative (digitsValue digits) (-zeros - digits.length)) := by
  have hfraction : ∀ c ∈ List.replicate zeros '0' ++ digits, isDigit c = true :=
    List.forall_mem_append.mpr ⟨fun _ => isDigit_of_mem_zeros, hdigits⟩
  have hzero : ∀ c ∈ ['0'], isDigit c = true := List.forall_mem_singleton.mpr rfl
  have h := unsigned?_point ['0'] _ [] (List.cons_ne_nil _ _) hzero hfraction rfl nofun negative
  rw [List.append_nil, ← List.replicate_one, ← List.append_assoc,
    List.replicate_append_replicate, Text.digitsValue_zeros] at h
  refine h.trans (congrArg (fun e => some (ofDecimal negative _ e)) ?_)
  simp only [List.length_append, List.length_replicate]
  omega

include hne

/-- All digits stand before the point. -/
theorem unsigned?_large (layout : Layout) (zeros : Nat) (negative : Bool) :
    unsigned? negative (digits ++ List.replicate zeros '0' ++
        if layout.wholePoint then ['.', '0'] else []) =
      some (ofDecimal negative (digitsValue digits) zeros) := by
  have hfill : ∀ c ∈ digits ++ List.replicate zeros '0', isDigit c = true :=
    List.forall_mem_append.mpr ⟨hdigits, fun _ => isDigit_of_mem_zeros⟩
  have hfill_ne : digits ++ List.replicate zeros '0' ≠ [] :=
    List.append_ne_nil_of_left_ne_nil hne _
  cases layout.wholePoint with
  | true =>
      have hone : digitsValue (digits ++ List.replicate zeros '0' ++ ['0']) =
          digitsValue digits * 10 ^ (zeros + 1) := by
        rw [List.append_assoc, ← List.replicate_succ', Text.digitsValue_append_zeros]
      have hzero : ∀ c ∈ ['0'], isDigit c = true := List.forall_mem_singleton.mpr rfl
      have h := unsigned?_point _ ['0'] [] hfill_ne hfill hzero rfl nofun negative
      have hpow := ofDecimal_mul_pow negative (digitsValue digits) (zeros + 1) zeros
      rw [hone] at h
      refine h.trans (congrArg some (Eq.trans ?_ hpow))
      refine congrArg (ofDecimal negative _) ?_
      rw [List.length_singleton]
      omega
  | false =>
      have h := unsigned?_whole _ [] hfill_ne hfill rfl nofun nofun negative
      have hpow := ofDecimal_mul_pow negative (digitsValue digits) zeros zeros
      rw [Int.sub_self] at hpow
      rw [Text.digitsValue_append_zeros] at h
      exact h.trans (congrArg some hpow)

/-- The point stands behind the first digits. -/
theorem unsigned?_split {n : Nat} (hpos : 0 < n) (hle : n ≤ digits.length) (negative : Bool) :
    unsigned? negative (digits.take n ++ '.' :: digits.drop n) =
      some (ofDecimal negative (digitsValue digits) (n - digits.length)) := by
  have hwhole : digits.take n ≠ [] := by
    rw [ne_eq, List.take_eq_nil_iff]
    exact not_or.mpr ⟨Nat.ne_of_gt hpos, hne⟩
  have h := unsigned?_point _ _ [] hwhole (fun c hc => hdigits c (List.mem_of_mem_take hc))
    (fun c hc => hdigits c (List.mem_of_mem_drop (i := n) hc)) rfl nofun negative
  rw [List.append_nil, List.take_append_drop] at h
  refine h.trans (congrArg (fun e => some (ofDecimal negative _ e)) ?_)
  simp only [List.length_drop]
  omega

theorem unsigned?_positional (layout : Layout) (place : Int) (negative : Bool) :
    unsigned? negative (positional layout digits place) =
      some (ofDecimal negative (digitsValue digits) (place - digits.length)) := by
  by_cases hplace : place ≤ 0
  · rw [positional, if_pos hplace, unsigned?_small hdigits, Int.toNat_of_nonneg (by omega),
      Int.neg_neg]
  rw [positional, if_neg hplace]
  by_cases hlong : digits.length ≤ place.toNat
  · rw [if_pos hlong, unsigned?_large hdigits hne]
    exact congrArg (fun e => some (ofDecimal negative _ e)) (by omega)
  · rw [if_neg hlong, unsigned?_split hdigits hne (by omega) (by omega),
      Int.toNat_of_nonneg (by omega)]

theorem unsigned?_scientific (layout : Layout) (place : Int) (negative : Bool) :
    unsigned? negative (scientific layout digits place) =
      some (ofDecimal negative (digitsValue digits) (place - digits.length)) := by
  have hexponent (plus : Bool) (h : plus = true → 0 ≤ place - 1) :
      exponentPart? ('e' :: ((if plus then ['+'] else []) ++ intDigits (place - 1))) =
        some (place - 1) := by
    rw [exponentPart?, if_pos (.inl rfl)]
    cases plus with
    | true => exact exponent?_plus (h rfl)
    | false => exact exponent?_intDigits _
  have hrest := hexponent (layout.exponentPlus && decide (1 ≤ place)) (by simp)
  have hends := Text.endsNumber_cons (c := 'e') (by decide)
    ((if layout.exponentPlus && decide (1 ≤ place) then ['+'] else []) ++ intDigits (place - 1))
  obtain ⟨c, tail, rfl⟩ := List.exists_cons_of_ne_nil hne
  obtain ⟨hc, htail⟩ := List.forall_mem_cons.mp hdigits
  have hone : ∀ d ∈ [c], isDigit d = true := List.forall_mem_singleton.mpr hc
  rw [scientific]
  cases tail with
  | nil =>
      have h := unsigned?_whole [c] _ (by simp) hone hrest hends (by simp) negative
      exact h.trans (by simp)
  | cons d ds =>
      have h := unsigned?_point [c] _ _ (by simp) hone htail hrest hends negative
      rw [List.cons_append, List.nil_append] at h
      refine Eq.trans (by simp) (h.trans (congrArg (fun e => some (ofDecimal negative _ e)) ?_))
      simp only [List.length_cons]
      omega

end Layouts

/-! ### Values -/

/-- The digits of the shortest decimal are laid out in one of two ways. -/
theorem unitsText_eq (layout : Layout) (units : Nat) :
    let digits := natDigits (shortest units).digits
    let place : Int := digits.length + (shortest units).exponent
    unitsText layout units = positional layout digits place ∨
      unitsText layout units = scientific layout digits place := by
  intro digits place
  have hplace : (if units = 0 then 1 else place) = place := by
    split
    · next hzero =>
        subst hzero
        rfl
    · rfl
  rw [unitsText]
  simp only [digits, place] at hplace ⊢
  rw [hplace]
  cases layout.bounds with
  | none => exact .inl rfl
  | some bounds =>
      dsimp only
      split
      · exact .inl rfl
      · exact .inr rfl

theorem unsigned?_unitsText (layout : Layout) {units : Nat} (h : Representable units)
    (negative : Bool) :
    unsigned? negative (unitsText layout units) = some (.finite negative units h) := by
  have hdigits : ∀ c ∈ natDigits (shortest units).digits, isDigit c = true :=
    fun _ => isDigit_of_mem_natDigits
  have hne := Text.natDigits_ne_nil (shortest units).digits
  have hread := ofDecimal_shortest h negative
  rcases unitsText_eq layout units with heq | heq
  · rw [heq, unsigned?_positional hdigits hne, digitsValue_natDigits, add_sub_cancel_left, hread]
  · rw [heq, unsigned?_scientific hdigits hne, digitsValue_natDigits, add_sub_cancel_left, hread]

/-- The text of a number of units begins with a digit. -/
theorem unitsText_eq_cons (layout : Layout) (units : Nat) :
    ∃ c cs, unitsText layout units = c :: cs ∧ isDigit c = true := by
  obtain ⟨c, cs, hcs⟩ := List.exists_cons_of_ne_nil
    (Text.natDigits_ne_nil (shortest units).digits)
  have hc : isDigit c = true := isDigit_of_mem_natDigits (hcs ▸ List.mem_cons_self)
  rcases unitsText_eq layout units with heq | heq
  · rw [heq, hcs, positional]
    split
    · exact ⟨_, _, rfl, rfl⟩
    · next hplace =>
        dsimp only
        split
        · exact ⟨c, _, rfl, hc⟩
        · rw [List.take_cons (by omega)]
          exact ⟨c, _, rfl, hc⟩
  · rw [heq, hcs]
    exact ⟨c, _, rfl, hc⟩

/-- A text that begins with a digit spells no word. -/
theorem map_asciiLower_ne {c : Char} (h : isDigit c = true) (cs : List Char) {d : Char}
    {ds : List Char} (hd : isDigit d = false) : (c :: cs).map Text.asciiLower ≠ d :: ds := by
  have hlower : Text.asciiLower c = c := by
    rw [Text.isDigit_iff] at h
    refine if_neg fun hupper => ?_
    rw [Bool.and_eq_true, decide_eq_true_eq] at hupper
    have hle : 65 ≤ c.toNat := hupper.1
    omega
  intro heq
  rw [List.map_cons, hlower] at heq
  obtain rfl := (List.cons.inj heq).1
  rw [h] at hd
  cases hd

theorem ofLiteral_of_unsigned? {cs body : List Char} {negative : Bool} {x : Binary64}
    (hsign : takeSign cs = (negative, body)) (hbody : ∃ c ds, body = c :: ds ∧ isDigit c = true)
    (h : unsigned? negative body = some x) : ofLiteral cs = .ok x := by
  obtain ⟨c, ds, rfl, hc⟩ := hbody
  have hempty : cs.isEmpty = false := by
    cases cs with
    | nil => cases hsign
    | cons => rfl
  rw [ofLiteral, hempty, hsign]
  simp only [Bool.false_eq_true, if_false]
  have hinf : (c :: ds).map Text.asciiLower ≠ "inf".toList := map_asciiLower_ne hc ds rfl
  have hinfinity : (c :: ds).map Text.asciiLower ≠ "infinity".toList := map_asciiLower_ne hc ds rfl
  have hnan : (c :: ds).map Text.asciiLower ≠ "nan".toList := map_asciiLower_ne hc ds rfl
  rw [if_neg (not_or.mpr ⟨hinf, hinfinity⟩), if_neg hnan, h]

/-- A finite value is read from its text. -/
theorem ofLiteral_textWith (layout : Layout) (nan infinity : List Char) (negative : Bool)
    {units : Nat} (h : Representable units) :
    ofLiteral (textWith layout nan infinity (.finite negative units h)) =
      .ok (.finite negative units h) := by
  obtain ⟨c, cs, hcs, hc⟩ := unitsText_eq_cons layout units
  have hread := unsigned?_unitsText layout h negative
  rw [textWith]
  cases negative with
  | true => exact ofLiteral_of_unsigned? rfl ⟨c, cs, hcs, hc⟩ hread
  | false =>
      refine ofLiteral_of_unsigned? ?_ ⟨c, cs, hcs, hc⟩ hread
      simp only [Bool.false_eq_true, if_false]
      rw [hcs, takeSign_of_isDigit hc]

end Binary64

end WaybillBoard
