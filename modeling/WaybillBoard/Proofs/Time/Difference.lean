import Mathlib.Tactic.ByContra
import Mathlib.Tactic.Ring
import WaybillBoard.Time.Instant

/-!
Differences between instants. Without leap seconds they are those of the nanoseconds since the
epoch, and cutting one drops its fraction, whatever its sign.
-/

namespace WaybillBoard.Time

/-- A truncated quotient is below zero as soon as its dividend holds the negated divisor. -/
theorem tdiv_neg_iff {n d : Int} (hd : 0 < d) : n.tdiv d < 0 ↔ d ≤ -n := by
  constructor
  · intro hneg
    by_contra hlt
    have hzero : 0 ≤ n.tdiv d := by
      rcases Int.le_total 0 n with hn | hn
      · exact Int.tdiv_nonneg hn hd.le
      · rw [← Int.neg_neg n, Int.neg_tdiv, Int.tdiv_eq_zero_of_lt (by omega) (by omega)]
        decide
    omega
  · intro hle
    have hone : 1 ≤ (-n).tdiv d := by
      rw [Int.tdiv_eq_ediv_of_nonneg (by omega)]
      exact (Int.le_ediv_iff_mul_le hd).mpr (by omega)
    rw [Int.neg_tdiv] at hone
    omega

namespace Instant

/-- Nanoseconds since 1970-01-01, where no leap second is counted. -/
def sinceEpoch (t : Instant) : Int := t.seconds * nanosPerSecond + t.nanos

theorem day_add_secondOfDay (t : Instant) : t.day * secondsPerDay + t.secondOfDay = t.seconds := by
  rw [Int.mul_comm]
  exact Int.mul_ediv_add_emod t.seconds secondsPerDay

variable {t u : Instant} (ht : t.isLeap = false) (hu : u.isLeap = false)
include ht hu

theorem nanosSince_eq : t.nanosSince u = t.sinceEpoch - u.sinceEpoch := by
  have htDay := day_add_secondOfDay t
  have huDay := day_add_secondOfDay u
  simp only [nanosSince, ht, hu, Bool.false_eq_true, if_false, ite_self, Int.add_zero, sinceEpoch]
  rw [← htDay, ← huDay]
  ring

theorem natAbs_secondsSince :
    (t.secondsSince u).natAbs = (t.sinceEpoch - u.sinceEpoch).natAbs / nanosPerSecond := by
  rw [secondsSince, nanosSince_eq ht hu, Int.natAbs_tdiv, Int.natAbs_natCast]
  rfl

theorem secondsSince_neg_iff :
    t.secondsSince u < 0 ↔ nanosPerSecond ≤ u.sinceEpoch - t.sinceEpoch := by
  rw [secondsSince, nanosSince_eq ht hu, tdiv_neg_iff (by decide), Int.neg_sub]

theorem natAbs_millisSince :
    (t.millisSince u).natAbs = (t.sinceEpoch - u.sinceEpoch).natAbs / 1000000 := by
  rw [millisSince, nanosSince_eq ht hu, Int.natAbs_tdiv]
  rfl

theorem millisSince_neg_iff :
    t.millisSince u < 0 ↔ 1000000 ≤ u.sinceEpoch - t.sinceEpoch := by
  rw [millisSince, nanosSince_eq ht hu, tdiv_neg_iff (by decide), Int.neg_sub]

end Instant

end WaybillBoard.Time
