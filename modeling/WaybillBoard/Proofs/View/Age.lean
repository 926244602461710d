import WaybillBoard.Proofs.Text.Digits
import WaybillBoard.Proofs.Time.Difference
import WaybillBoard.View.Format

/-!
Ages and waiting times are exact in the longest unit that they hold, read the same from both ends
but for the tense, and never shrink as an instant moves back.
-/

namespace WaybillBoard.Format

open Time (Instant nanosPerSecond)
open Text (natDigits)

inductive AgeUnit where
  | second | minute | hour | day | month | year
  deriving DecidableEq, Repr

namespace AgeUnit

def seconds : AgeUnit → Nat
  | second => 1
  | minute => 60
  | hour => 60 * 60
  | day => 24 * 60 * 60
  | month => 30 * (24 * 60 * 60)
  | year => 365 * (24 * 60 * 60)

def name : AgeUnit → String
  | second => "second"
  | minute => "minute"
  | hour => "hour"
  | day => "day"
  | month => "month"
  | year => "year"

/-- A number of them, in the singular for one alone. -/
def number (count : Nat) (unit : AgeUnit) : List Char :=
  natDigits count ++ ' ' :: if count = 1 then unit.name.toList else unit.name.toList ++ ['s']

theorem seconds_pos (unit : AgeUnit) : 0 < unit.seconds := by
  cases unit <;> decide

def descending : List AgeUnit := [year, month, day, hour, minute, second]

theorem mem_descending (unit : AgeUnit) : unit ∈ descending := by
  cases unit <;> decide

theorem pairwise_descending : descending.Pairwise fun u v => v.seconds ≤ u.seconds := by
  decide

end AgeUnit

theorem ageUnits_eq : ageUnits = AgeUnit.descending.map fun unit => (unit.seconds, unit.name) :=
  rfl

theorem counted_name (count : Nat) (unit : AgeUnit) :
    counted count unit.name = unit.number count := by
  rw [counted, AgeUnit.number]
  split
  · rw [List.append_nil]
  · rfl

/-- The longest unit that a number of seconds holds, and how often it does. Nothing holds no
seconds. -/
structure IsAge (elapsed count : Nat) (unit : AgeUnit) : Prop where
  le : count * unit.seconds ≤ elapsed
  lt : elapsed < (count + 1) * unit.seconds
  fits : unit.seconds ≤ elapsed ∨ elapsed = 0 ∧ unit = .second
  longest : ∀ other : AgeUnit, other.seconds ≤ elapsed → other.seconds ≤ unit.seconds

theorem age_eq (elapsed : Nat) :
    age elapsed = match AgeUnit.descending.find? (fun unit => unit.seconds ≤ elapsed) with
      | some unit => (elapsed / unit.seconds, unit.name)
      | none => (0, AgeUnit.second.name) := by
  rw [age, ageUnits_eq, List.find?_map, Function.comp_def]
  cases AgeUnit.descending.find? fun unit => unit.seconds ≤ elapsed <;> rfl

theorem exists_isAge (elapsed : Nat) :
    ∃ count unit, age elapsed = (count, AgeUnit.name unit) ∧ IsAge elapsed count unit := by
  rw [age_eq]
  cases hfind : AgeUnit.descending.find? (fun unit => unit.seconds ≤ elapsed) with
  | none =>
      have hlt (unit : AgeUnit) : elapsed < unit.seconds := Nat.lt_of_not_le fun hle =>
        List.find?_eq_none.mp hfind unit unit.mem_descending (decide_eq_true hle)
      obtain rfl : elapsed = 0 := Nat.lt_one_iff.mp (hlt .second)
      exact ⟨0, .second, rfl, ⟨Nat.le_refl 0, hlt .second, .inr ⟨rfl, rfl⟩,
        fun other hother => absurd hother (Nat.not_le_of_lt (hlt other))⟩⟩
  | some unit =>
      obtain ⟨hle, front, back, hsplit, hfront⟩ := List.find?_eq_some_iff_append.mp hfind
      have hlt : elapsed < (elapsed / unit.seconds + 1) * unit.seconds := by
        rw [Nat.add_mul, Nat.one_mul]
        exact Nat.lt_div_mul_add unit.seconds_pos
      refine ⟨elapsed / unit.seconds, unit, rfl,
        ⟨Nat.div_mul_le_self elapsed unit.seconds, hlt, .inl (of_decide_eq_true hle), ?_⟩⟩
      -- a unit that fits stands at or after the one found, and the units descend
      intro other hother
      have hmem := other.mem_descending
      have hpairwise := AgeUnit.pairwise_descending
      rw [hsplit] at hmem hpairwise
      rcases List.mem_append.mp hmem with hmem | hmem
      · have hnot := hfront other hmem
        rw [decide_eq_true hother] at hnot
        exact absurd hnot Bool.false_ne_true
      · rcases List.mem_cons.mp hmem with rfl | hmem
        · exact Nat.le_refl _
        · exact (List.pairwise_cons.mp (List.pairwise_append.mp hpairwise).2.1).1 other hmem

/-- Ages never shrink as time goes on, also where a longer unit takes over. -/
theorem IsAge.mono {elapsed elapsed' count count' : Nat} {unit unit' : AgeUnit}
    (h : IsAge elapsed count unit) (h' : IsAge elapsed' count' unit') (hle : elapsed ≤ elapsed') :
    count * unit.seconds ≤ count' * unit'.seconds := by
  rcases Nat.lt_trichotomy unit.seconds unit'.seconds with hunit | hunit | hunit
  · -- the shorter unit stands for less than one of the longer, of which there is at least one
    have hshort : elapsed < unit'.seconds := Nat.lt_of_not_le fun hfits =>
      Nat.not_le_of_lt hunit (h.longest unit' hfits)
    have hone : 1 ≤ count' := by
      rcases h'.fits with hfits | ⟨-, rfl⟩
      · by_contra hzero
        have hlt := h'.lt
        rw [show count' = 0 by omega, Nat.zero_add, Nat.one_mul] at hlt
        omega
      · exact absurd hunit (Nat.not_lt_of_le unit.seconds_pos)
    calc count * unit.seconds ≤ elapsed := h.le
      _ ≤ 1 * unit'.seconds := by omega
      _ ≤ count' * unit'.seconds := Nat.mul_le_mul_right _ hone
  · have hlt := Nat.lt_of_le_of_lt (h.le.trans hle) h'.lt
    rw [← hunit] at hlt ⊢
    exact Nat.mul_le_mul_right _ (Nat.le_of_lt_succ (Nat.lt_of_mul_lt_mul_right hlt))
  · rcases h.fits with hfits | ⟨hzero, -⟩
    · exact absurd (h'.longest unit (hfits.trans hle)) (Nat.not_le_of_lt hunit)
    · exact (h.le.trans hzero.le).trans (Nat.zero_le _)

/-- The whole seconds between two instants, the fraction dropped. -/
def secondsBetween (t u : Instant) : Nat := (t.sinceEpoch - u.sinceEpoch).natAbs / nanosPerSecond

theorem secondsBetween_comm (t u : Instant) : secondsBetween t u = secondsBetween u t := by
  rw [secondsBetween, ← Int.natAbs_neg, Int.neg_sub, secondsBetween]

/-- What is shown of `t` at `now`: the exact count and unit, in the future from a whole second
on. -/
structure ShowsAge (t now : Instant) (count : Nat) (unit : AgeUnit) : Prop where
  isAge : IsAge (secondsBetween t now) count unit
  future_iff : relative t now = "in ".toList ++ unit.number count ↔
    nanosPerSecond ≤ t.sinceEpoch - now.sinceEpoch
  past_iff : relative t now = unit.number count ++ " ago".toList ↔
    ¬ nanosPerSecond ≤ t.sinceEpoch - now.sinceEpoch

variable {t now : Instant}

theorem relative_eq (ht : t.isLeap = false) (hnow : now.isLeap = false) {count : Nat}
    {unit : AgeUnit} (hage : age (secondsBetween t now) = (count, unit.name)) :
    relative t now = if nanosPerSecond ≤ t.sinceEpoch - now.sinceEpoch
      then "in ".toList ++ unit.number count else unit.number count ++ " ago".toList := by
  rw [relative, Instant.natAbs_secondsSince hnow ht, ← secondsBetween, secondsBetween_comm, hage,
    ← counted_name]
  dsimp only
  by_cases hfuture : nanosPerSecond ≤ t.sinceEpoch - now.sinceEpoch
  · rw [if_pos hfuture, if_neg]
    exact Int.not_le_of_gt ((Instant.secondsSince_neg_iff hnow ht).mpr hfuture)
  · rw [if_neg hfuture, if_pos]
    exact Int.not_lt.mp fun hneg => hfuture ((Instant.secondsSince_neg_iff hnow ht).mp hneg)

theorem showsAge_of_isAge (ht : t.isLeap = false) (hnow : now.isLeap = false) {count : Nat}
    {unit : AgeUnit} (hage : age (secondsBetween t now) = (count, unit.name))
    (hisAge : IsAge (secondsBetween t now) count unit) : ShowsAge t now count unit := by
  have hne : "in ".toList ++ unit.number count ≠ unit.number count ++ " ago".toList := by
    rw [AgeUnit.number, List.append_assoc (natDigits count)]
    exact (Text.natDigits_append_ne_cons (by decide) count _ _).symm
  have heq := relative_eq ht hnow hage
  by_cases hfuture : nanosPerSecond ≤ t.sinceEpoch - now.sinceEpoch
  · rw [if_pos hfuture] at heq
    exact ⟨hisAge, iff_of_true heq hfuture, iff_of_false (heq ▸ hne) (not_not_intro hfuture)⟩
  · rw [if_neg hfuture] at heq
    exact ⟨hisAge, iff_of_false (heq ▸ hne.symm) hfuture, iff_of_true heq hfuture⟩

theorem exists_showsAge (ht : t.isLeap = false) (hnow : now.isLeap = false) :
    ∃ count unit, ShowsAge t now count unit ∧ ShowsAge now t count unit := by
  obtain ⟨count, unit, hage, hisAge⟩ := exists_isAge (secondsBetween t now)
  have hcomm := secondsBetween_comm t now
  exact ⟨count, unit, showsAge_of_isAge ht hnow hage hisAge,
    showsAge_of_isAge hnow ht (hcomm ▸ hage) (hcomm ▸ hisAge)⟩

/-- What is shown from the other end differs in the tense, unless not one second lies between. -/
structure ChangesTense (t now : Instant) (count : Nat) (unit : AgeUnit) : Prop where
  to_future : 0 < secondsBetween t now → (relative now t = "in ".toList ++ unit.number count ↔
    relative t now = unit.number count ++ " ago".toList)
  to_past : 0 < secondsBetween t now → (relative now t = unit.number count ++ " ago".toList ↔
    relative t now = "in ".toList ++ unit.number count)
  same : secondsBetween t now = 0 → relative now t = relative t now

theorem secondsBetween_pos_iff : 0 < secondsBetween t now ↔
    nanosPerSecond ≤ t.sinceEpoch - now.sinceEpoch ∨
      nanosPerSecond ≤ now.sinceEpoch - t.sinceEpoch := by
  rw [secondsBetween, Nat.div_pos_iff]
  simp only [nanosPerSecond]
  omega

theorem ShowsAge.changesTense {count : Nat} {unit : AgeUnit} (h : ShowsAge t now count unit)
    (hswap : ShowsAge now t count unit) : ChangesTense t now count unit := by
  have hexclusive : ¬ (nanosPerSecond ≤ t.sinceEpoch - now.sinceEpoch ∧
      nanosPerSecond ≤ now.sinceEpoch - t.sinceEpoch) := by
    simp only [nanosPerSecond]
    omega
  have htenses (hpos : 0 < secondsBetween t now) :
      nanosPerSecond ≤ now.sinceEpoch - t.sinceEpoch ↔
        ¬ nanosPerSecond ≤ t.sinceEpoch - now.sinceEpoch := by
    have hone := secondsBetween_pos_iff.mp hpos
    tauto
  refine ⟨fun hpos => ?_, fun hpos => ?_, fun hzero => ?_⟩
  · rw [hswap.future_iff, h.past_iff]
    exact htenses hpos
  · rw [hswap.past_iff, h.future_iff]
    exact (not_congr (htenses hpos)).trans not_not
  · have hnone := (not_congr secondsBetween_pos_iff).mp (Nat.not_lt.mpr hzero.le)
    rw [hswap.past_iff.mpr fun hle => hnone (.inr hle), h.past_iff.mpr fun hle => hnone (.inl hle)]

/-- Every age and waiting time is exact in its longest unit, the same from both ends but for the
tense, and no smaller for an instant further back. -/
theorem relative_exact (ht : t.isLeap = false) (hnow : now.isLeap = false) :
    ∃ count unit, ShowsAge t now count unit ∧ ShowsAge now t count unit ∧
      ChangesTense t now count unit ∧
      ∀ earlier : Instant, earlier.isLeap = false → earlier.sinceEpoch ≤ t.sinceEpoch →
        t.sinceEpoch ≤ now.sinceEpoch → ∃ count' unit', ShowsAge earlier now count' unit' ∧
          count * unit.seconds ≤ count' * unit'.seconds := by
  obtain ⟨count, unit, hshows, hswap⟩ := exists_showsAge ht hnow
  refine ⟨count, unit, hshows, hswap, hshows.changesTense hswap, ?_⟩
  intro earlier hearlier hle hpast
  obtain ⟨count', unit', hshows', -⟩ := exists_showsAge hearlier hnow
  have hbetween : secondsBetween t now ≤ secondsBetween earlier now :=
    Nat.div_le_div_right (by omega)
  exact ⟨count', unit', hshows', hshows.isAge.mono hshows'.isAge hbetween⟩

/-- A nanosecond less than a year is twelve months, which come to five days less. -/
theorem relative_exact_year :
    relative ⟨0, 1⟩ ⟨31536000, 0⟩ = "12 months ago".toList ∧
      relative .epoch ⟨31536000, 0⟩ = "1 year ago".toList ∧
      ∃ count unit, ShowsAge ⟨0, 1⟩ ⟨31536000, 0⟩ count unit ∧
        ShowsAge ⟨31536000, 0⟩ ⟨0, 1⟩ count unit ∧
        ChangesTense ⟨0, 1⟩ ⟨31536000, 0⟩ count unit ∧
        ∃ count' unit', ShowsAge .epoch ⟨31536000, 0⟩ count' unit' ∧
          count * unit.seconds ≤ count' * unit'.seconds := by
  have ht : Instant.isLeap ⟨0, 1⟩ = false := by decide
  have hnow : Instant.isLeap ⟨31536000, 0⟩ = false := by decide
  obtain ⟨count, unit, hshows, hswap, hchanges, hmono⟩ := relative_exact ht hnow
  exact ⟨by decide, by decide, count, unit, hshows, hswap, hchanges,
    hmono .epoch (by decide) (by decide) (by decide)⟩

end WaybillBoard.Format
