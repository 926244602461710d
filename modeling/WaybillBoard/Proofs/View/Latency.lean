import WaybillBoard.Binary64.Layout
import WaybillBoard.Proofs.Binary64.Nearest
import WaybillBoard.Proofs.Time.Difference
import WaybillBoard.Proofs.Time.Rfc3339
import WaybillBoard.View.Format

/-!
When the duration of a run is rounded to the nearest second. The difference is cut to milliseconds
before it is rounded, which makes ties of what lies a little above the half of a second, and keeps
its sign also where it rounds to zero.
-/

namespace WaybillBoard.Format

open Binary64 (IsNearest roundQuotient intDigits)
open Text (natDigits)
open Time (Instant nanosPerSecond)

/-! ### The milliseconds -/

theorem roundUnits_le_succ {millis : Nat} (h : millis < Nat.pow 2 54) :
    Binary64.roundUnits millis 1 ≤ millis + 1 := by
  rcases Nat.lt_or_ge millis (Nat.pow 2 53) with hsmall | hlarge
  · rw [Binary64.roundUnits_of_lt hsmall]
    exact Nat.le_succ millis
  · rw [Binary64.roundUnits_of_le hlarge h]
    have := Binary64.roundQuotient_cases millis 2
    omega

/-- Only the milliseconds themselves are rounded to a value first, and only when they have more
than 53 bits. -/
theorem wholeSeconds_eq {millis : Nat} (h : millis < 17 * 10 ^ 15) :
    wholeSeconds millis = roundQuotient (Binary64.roundUnits millis 1) 1000 := by
  have hround : Binary64.roundUnits millis 1 < Nat.pow 2 44 * 1000 := by
    have hle := roundUnits_le_succ (h.trans (by decide))
    have hlimit : 17 * 10 ^ 15 + 1 < Nat.pow 2 44 * 1000 := by decide
    omega
  have hunits := Binary64.unitsOf_eq millis
  unfold Binary64.unitsOf at hunits
  unfold wholeSeconds
  dsimp only
  rw [hunits, Binary64.roundQuotient_roundUnits hround]

/-- The milliseconds come to the half of a second and the difference does not: the rest of its
nanoseconds is cut off, and of more than 53 bits of milliseconds the last is rounded away. The tie
then goes to the even second, which is the wrong one here. -/
def BecomesTie (nanos : Nat) : Prop :=
  let second := nanos / nanosPerSecond
  let rest := nanos % nanosPerSecond
  second % 2 = 0 ∧ 500000000 < rest ∧ rest < 501000000 ∨
    2 ^ 53 ≤ nanos / 1000000 ∧
      (second % 2 = 0 ∧ rest / 1000000 = 501 ∨ second % 2 = 1 ∧ rest / 1000000 = 499)

instance (nanos : Nat) : Decidable (BecomesTie nanos) :=
  inferInstanceAs (Decidable (_ ∧ _ ∨ _ ∧ (_ ∨ _)))

theorem roundQuotient_millis {milli : Nat} (second : Nat) (h : milli ≤ 1000) :
    roundQuotient (1000 * second + milli) 1000 =
      if 500 < milli ∨ milli = 500 ∧ second % 2 = 1 then second + 1 else second := by
  have hcases := Binary64.roundQuotient_cases (1000 * second + milli) 1000
  split <;> omega

/-- Rounded to an even number, milliseconds keep their whole seconds, and one may be added. -/
theorem roundQuotient_two (second milli : Nat) :
    roundQuotient (1000 * second + milli) 2 * 2 =
      1000 * second + if milli % 4 = 3 then milli + 1 else milli - milli % 2 := by
  have hcases := Binary64.roundQuotient_cases (1000 * second + milli) 2
  split <;> omega

theorem wholeSeconds_eq_iff {nanos : Nat} (h : nanos < 17 * 10 ^ 21) :
    wholeSeconds (nanos / 1000000) = roundQuotient nanos nanosPerSecond ↔ ¬ BecomesTie nanos := by
  have hnearest := Binary64.roundQuotient_cases nanos 1000000000
  obtain ⟨milli, hmilli, hlt⟩ : ∃ milli, milli = nanos % 1000000000 / 1000000 ∧ milli < 1000 :=
    ⟨_, rfl, by omega⟩
  have hmillis : 1000 * (nanos / 1000000000) + milli < 17 * 10 ^ 15 := by omega
  have hsplit : nanos / 1000000 = 1000 * (nanos / 1000000000) + milli := by omega
  simp only [BecomesTie, nanosPerSecond, ← hmilli, hsplit]
  rw [wholeSeconds_eq hmillis]
  generalize roundQuotient nanos 1000000000 = nearest at hnearest ⊢
  generalize nanos / 1000000000 = second at *
  generalize nanos % 1000000000 = rest at *
  rcases Nat.lt_or_ge (1000 * second + milli) (Nat.pow 2 53) with hsmall | hlarge
  · rw [Binary64.roundUnits_of_lt hsmall, roundQuotient_millis second hlt.le]
    simp only [Nat.pow_eq] at hsmall
    split <;> omega
  · rw [Binary64.roundUnits_of_le hlarge (hmillis.trans (by decide)), roundQuotient_two,
      roundQuotient_millis second (by split <;> omega)]
    simp only [Nat.pow_eq] at hlarge
    split <;> split <;> omega

/-! ### The text -/

/-- The digits behind a sign. -/
def signed (negative : Bool) (n : Nat) : List Char :=
  if negative then '-' :: natDigits n else natDigits n

theorem intDigits_eq (n : Int) : intDigits n = signed (n < 0) n.natAbs := by
  simp only [intDigits, signed, decide_eq_true_eq]

theorem signed_inj {negative negative' : Bool} {a b : Nat} :
    signed negative a = signed negative' b ↔ negative = negative' ∧ a = b := by
  have hminus (n m : Nat) : natDigits n ≠ '-' :: natDigits m := by
    simpa using Text.natDigits_append_ne_cons (c := '-') (by decide) n [] (natDigits m)
  cases negative <;> cases negative' <;>
    simp [signed, Text.natDigits_inj, hminus, (hminus _ _).symm]

variable {started finished : Instant}

theorem latency_eq (hstarted : started.isLeap = false) (hfinished : finished.isLeap = false) :
    latency started finished =
      signed (1000000 ≤ started.sinceEpoch - finished.sinceEpoch)
        (wholeSeconds ((finished.sinceEpoch - started.sinceEpoch).natAbs / 1000000)) ++
      " sec".toList := by
  have hsign := Instant.millisSince_neg_iff hfinished hstarted
  rw [latency, Instant.natAbs_millisSince hfinished hstarted]
  by_cases hneg : finished.millisSince started < 0
  · rw [if_pos hneg, decide_eq_true (hsign.mp hneg), signed, if_pos rfl, List.cons_append]
  · rw [if_neg hneg, decide_eq_false (mt hsign.mpr hneg), signed, if_neg Bool.false_ne_true]

/-- The differences that are rounded to zero and shown with a sign. -/
def SignsZero (nanos : Int) : Prop := -500000000 ≤ nanos ∧ nanos ≤ -1000000

instance (nanos : Int) : Decidable (SignsZero nanos) :=
  inferInstanceAs (Decidable (_ ∧ _))

theorem sinceEpoch_bounds {t : Instant} (h : t.IsValid) (hleap : t.isLeap = false) :
    -96465292 * 86400 * 1000000000 ≤ t.sinceEpoch ∧
      t.sinceEpoch < 95026237 * 86400 * 1000000000 := by
  have hrange := h.inRange
  have hnanos : t.nanos < nanosPerSecond := Nat.lt_of_not_le (of_decide_eq_false hleap)
  have hfirst : Time.Rfc3339.firstDay = -96465292 := by decide
  have hlast : Time.Rfc3339.lastDay = 95026236 := by decide
  simp only [Time.Rfc3339.isInRange, Bool.and_eq_true, decide_eq_true_eq, hfirst, hlast,
    Instant.day, Time.secondsPerDay] at hrange
  simp only [Instant.sinceEpoch, nanosPerSecond] at hnanos ⊢
  omega

theorem natAbs_difference_lt (hstarted : started.IsValid) (hfinished : finished.IsValid)
    (hstartedLeap : started.isLeap = false) (hfinishedLeap : finished.isLeap = false) :
    (finished.sinceEpoch - started.sinceEpoch).natAbs < 17 * 10 ^ 21 := by
  obtain ⟨hstartedLow, hstartedHigh⟩ := sinceEpoch_bounds hstarted hstartedLeap
  obtain ⟨hfinishedLow, hfinishedHigh⟩ := sinceEpoch_bounds hfinished hfinishedLeap
  omega

theorem roundQuotient_eq_zero_iff (nanos : Nat) :
    roundQuotient nanos nanosPerSecond = 0 ↔ nanos ≤ 500000000 := by
  have hcases := Binary64.roundQuotient_cases nanos nanosPerSecond
  simp only [nanosPerSecond] at hcases ⊢
  omega

theorem exists_isNearest (nanos : Int) : ∃ seconds, IsNearest nanos nanosPerSecond seconds ∧
    seconds.natAbs = roundQuotient nanos.natAbs nanosPerSecond ∧
    (seconds < 0 ↔ nanos < -500000000) := by
  have hnearest : IsNearest nanos.natAbs nanosPerSecond _ :=
    Binary64.isNearest_roundQuotient nanos.natAbs (by decide)
  have hzero := roundQuotient_eq_zero_iff nanos.natAbs
  rcases Int.le_total 0 nanos with hpositive | hnegative
  · rw [Int.natAbs_of_nonneg hpositive] at hnearest
    exact ⟨_, hnearest, Int.natAbs_natCast _, by omega⟩
  · rw [Int.ofNat_natAbs_of_nonpos hnegative] at hnearest
    have hneg := hnearest.neg
    rw [Int.neg_neg] at hneg
    exact ⟨_, hneg, by rw [Int.natAbs_neg, Int.natAbs_natCast], by omega⟩

/-- The nearest second is shown exactly when no tie is made and no sign stands before a zero. -/
theorem latency_eq_nearest_iff (hstarted : started.IsValid) (hfinished : finished.IsValid)
    (hstartedLeap : started.isLeap = false) (hfinishedLeap : finished.isLeap = false) :
    ∃ seconds, IsNearest (finished.sinceEpoch - started.sinceEpoch) nanosPerSecond seconds ∧
      (latency started finished = intDigits seconds ++ " sec".toList ↔
        ¬ (SignsZero (finished.sinceEpoch - started.sinceEpoch) ∨
          BecomesTie (finished.sinceEpoch - started.sinceEpoch).natAbs)) := by
  have hlt := natAbs_difference_lt hstarted hfinished hstartedLeap hfinishedLeap
  rw [latency_eq hstartedLeap hfinishedLeap, ← Int.neg_sub finished.sinceEpoch]
  generalize finished.sinceEpoch - started.sinceEpoch = nanos at hlt ⊢
  obtain ⟨seconds, hnearest, hvalue, hsign⟩ := exists_isNearest nanos
  refine ⟨seconds, hnearest, ?_⟩
  rw [List.append_left_inj, intDigits_eq, signed_inj, hvalue, wholeSeconds_eq_iff hlt,
    decide_eq_decide, hsign, SignsZero, not_or]
  exact and_congr (by omega) Iff.rfl

/-- A tie in the nanoseconds is one in the milliseconds. -/
theorem latency_eq_nearest_half :
    ∃ seconds, IsNearest (Instant.sinceEpoch ⟨3, 500000000⟩ - Instant.sinceEpoch ⟨0, 0⟩)
        nanosPerSecond seconds ∧
      latency ⟨0, 0⟩ ⟨3, 500000000⟩ = intDigits seconds ++ " sec".toList := by
  have hstarted : Instant.IsValid ⟨0, 0⟩ := ⟨by decide, by decide, by decide⟩
  have hfinished : Instant.IsValid ⟨3, 500000000⟩ := ⟨by decide, by decide, by decide⟩
  obtain ⟨seconds, hnearest, hshown⟩ :=
    latency_eq_nearest_iff hstarted hfinished (by decide) (by decide)
  exact ⟨seconds, hnearest, hshown.mpr (by decide)⟩

/-- A nanosecond past the half of a second is cut off, and the sign before three tenths of one is
not. -/
theorem latency_ne_nearest :
    (IsNearest (Instant.sinceEpoch ⟨2, 500000001⟩ - Instant.sinceEpoch ⟨0, 0⟩) nanosPerSecond 3 ∧
      latency ⟨0, 0⟩ ⟨2, 500000001⟩ = "2 sec".toList) ∧
    (IsNearest (Instant.sinceEpoch ⟨0, 0⟩ - Instant.sinceEpoch ⟨0, 300000000⟩) nanosPerSecond 0 ∧
      latency ⟨0, 300000000⟩ ⟨0, 0⟩ = "-0 sec".toList) := by
  refine ⟨⟨⟨by decide, by decide⟩, ?_⟩, ⟨⟨by decide, by decide⟩, ?_⟩⟩
  · decide +kernel
  · decide +kernel

end WaybillBoard.Format
