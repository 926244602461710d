import WaybillBoard.Time.Calendar

/-!
Dates from days. An era is 400 years from March, so every day is a day of a year of an era; the
date that is made of these is a date of the calendar and counts the same days.
-/

namespace WaybillBoard.Time

/-! ### The years of an era -/

/-- The days of an era before a year of it. -/
def daysBeforeYear (yearOfEra : Nat) : Nat :=
  365 * yearOfEra + yearOfEra / 4 - yearOfEra / 100 + yearOfEra / 400

/-- The years of an era up to a day of it, in days that are as many for every year. -/
def evenDays (dayOfEra : Nat) : Nat :=
  dayOfEra - dayOfEra / 1460 + dayOfEra / 36524 - dayOfEra / 146096

theorem evenDays_mono {a b : Nat} (hab : a ≤ b) (hb : b < 146097) : evenDays a ≤ evenDays b := by
  unfold evenDays
  omega

/-- Every day of an era lies in a year. -/
theorem exists_yearOfEra {dayOfEra : Nat} : ∀ {years : Nat}, dayOfEra < daysBeforeYear years →
    ∃ year < years, daysBeforeYear year ≤ dayOfEra ∧ dayOfEra < daysBeforeYear (year + 1)
  | 0, h => absurd h (Nat.not_lt_zero _)
  | years + 1, h => by
    by_cases hlt : dayOfEra < daysBeforeYear years
    · obtain ⟨year, hyear, hdays⟩ := exists_yearOfEra hlt
      exact ⟨year, Nat.lt_succ_of_lt hyear, hdays⟩
    · exact ⟨years, Nat.lt_succ_self _, Nat.le_of_not_lt hlt, h⟩

theorem evenDays_year : ∀ year < 400, 365 * year ≤ evenDays (daysBeforeYear year) ∧
    evenDays (daysBeforeYear (year + 1) - 1) < 365 * (year + 1) := by decide +kernel

/-- The year of a day is counted right. -/
theorem evenDays_div {year dayOfEra : Nat} (hyear : year < 400)
    (hle : daysBeforeYear year ≤ dayOfEra) (hlt : dayOfEra < daysBeforeYear (year + 1)) :
    evenDays dayOfEra / 365 = year := by
  have hend : daysBeforeYear (year + 1) ≤ 146097 := by
    unfold daysBeforeYear
    omega
  obtain ⟨hfirst, hlast⟩ := evenDays_year year hyear
  have hlow := evenDays_mono hle (by omega)
  have hhigh := evenDays_mono (b := daysBeforeYear (year + 1) - 1)
    (Nat.le_sub_one_of_lt hlt) (by omega)
  omega

/-! ### Dates -/

/-- A date by its year and day in an era that begins in March. -/
def Date.inEra (era : Int) (year dayOfYear : Nat) : Date :=
  let monthFromMarch := (5 * dayOfYear + 2) / 153
  let month := if monthFromMarch < 10 then monthFromMarch + 3 else monthFromMarch - 9
  ⟨if month ≤ 2 then (year : Int) + era * 400 + 1 else year + era * 400, month,
    dayOfYear - daysBeforeMonth monthFromMarch + 1⟩

/-- Every day is one of a year of an era. -/
theorem exists_inEra (days : Int) : ∃ (era : Int) (year dayOfYear : Nat),
    year < 400 ∧ daysBeforeYear year + dayOfYear < daysBeforeYear (year + 1) ∧
      days = era * 146097 + daysBeforeYear year + dayOfYear - 719468 ∧
      Date.ofDays days = Date.inEra era year dayOfYear := by
  have hlast : ((days + 719468) % 146097).toNat < daysBeforeYear 400 := by
    have : daysBeforeYear 400 = 146097 := by decide
    omega
  obtain ⟨year, hyear, hle, hlt⟩ := exists_yearOfEra hlast
  have hcount := evenDays_div hyear hle hlt
  have hbefore : daysBeforeYear year = 365 * year + year / 4 - year / 100 := by
    unfold daysBeforeYear
    omega
  refine ⟨(days + 719468) / 146097, year,
    ((days + 719468) % 146097).toNat - daysBeforeYear year, hyear, ?_, ?_, ?_⟩
  · omega
  · omega
  · unfold evenDays at hcount
    simp only [Date.ofDays, Date.inEra, hcount, hbefore]

theorem toDays_inEra {year dayOfYear : Nat} (era : Int) (hyear : year < 400)
    (hday : daysBeforeYear year + dayOfYear < daysBeforeYear (year + 1)) :
    (Date.inEra era year dayOfYear).toDays =
      era * 146097 + daysBeforeYear year + dayOfYear - 719468 := by
  have hlength : dayOfYear ≤ 365 := by
    unfold daysBeforeYear at hday
    omega
  obtain ⟨m, hm⟩ : ∃ m, m = (5 * dayOfYear + 2) / 153 := ⟨_, rfl⟩
  have hmonth : ((if m < 10 then m + 3 else m - 9) + 9) % 12 = m := by
    split <;> omega
  have hmarch : (if m < 10 then m + 3 else m - 9) ≤ 2 ↔ ¬ m < 10 := by
    split <;> omega
  have hyearOf : (if (if m < 10 then m + 3 else m - 9) ≤ 2 then
      (if (if m < 10 then m + 3 else m - 9) ≤ 2 then (year : Int) + era * 400 + 1
        else year + era * 400) - 1
      else (if (if m < 10 then m + 3 else m - 9) ≤ 2 then (year : Int) + era * 400 + 1
        else year + era * 400)) = year + era * 400 := by
    split <;> omega
  simp only [Date.toDays, Date.inEra, ← hm, hmonth, hyearOf, daysBeforeMonth, daysBeforeYear]
  omega

theorem toDays_ofDays (days : Int) : (Date.ofDays days).toDays = days := by
  obtain ⟨era, year, dayOfYear, hyear, hday, hdays, hdate⟩ := exists_inEra days
  rw [hdate, toDays_inEra era hyear hday, hdays]

/-- The days of a month that is counted from March, with the last one as long as it can be. -/
theorem day_le {dayOfYear m : Nat} (hm : m = (5 * dayOfYear + 2) / 153) :
    daysBeforeMonth m ≤ dayOfYear ∧ dayOfYear < daysBeforeMonth (m + 1) := by
  unfold daysBeforeMonth
  omega

/-- A year of an era has a day more when a leap year ends it. -/
theorem dayOfYear_le {year dayOfYear : Nat} (era : Int) (hyear : year < 400)
    (hday : daysBeforeYear year + dayOfYear < daysBeforeYear (year + 1)) :
    dayOfYear ≤ if isLeapYear (year + era * 400 + 1) then 365 else 364 := by
  unfold daysBeforeYear at hday
  simp only [isLeapYear, decide_eq_true_eq]
  split <;> omega

theorem isValid_inEra {year dayOfYear : Nat} (era : Int) (hyear : year < 400)
    (hday : daysBeforeYear year + dayOfYear < daysBeforeYear (year + 1)) :
    (Date.inEra era year dayOfYear).isValid = true := by
  have hlength := dayOfYear_le era hyear hday
  have hlast : dayOfYear ≤ 365 := by
    split at hlength <;> omega
  obtain ⟨m, hm⟩ : ∃ m, m = (5 * dayOfYear + 2) / 153 := ⟨_, rfl⟩
  obtain ⟨hle, hlt⟩ := day_le hm
  simp only [Date.isValid, Date.inEra, ← hm, Bool.and_eq_true, decide_eq_true_eq]
  unfold daysBeforeMonth at *
  by_cases hspring : m < 10
  · rw [if_pos hspring, if_neg (by omega : ¬ m + 3 ≤ 2)]
    unfold daysInMonth
    rw [if_neg (by omega : m + 3 ≠ 2)]
    split <;> omega
  · obtain rfl | rfl : m = 10 ∨ m = 11 := by omega
    · have hjanuary : daysInMonth ((year : Int) + era * 400 + 1) (10 - 9) = 31 := rfl
      rw [if_neg (by decide), if_pos (by decide), hjanuary]
      omega
    · -- February, the month that ends the year.
      have hfebruary : daysInMonth ((year : Int) + era * 400 + 1) (11 - 9) =
          if isLeapYear (year + era * 400 + 1) then 29 else 28 := rfl
      rw [if_neg (by decide), if_pos (by decide), hfebruary]
      split at hlength
      · next hleap =>
        rw [if_pos hleap]
        omega
      · next hleap =>
        rw [if_neg hleap]
        omega

theorem isValid_ofDays (days : Int) : (Date.ofDays days).isValid = true := by
  obtain ⟨era, year, dayOfYear, hyear, hday, -, hdate⟩ := exists_inEra days
  rw [hdate]
  exact isValid_inEra era hyear hday

/-- The year of a day in the span of years that a date can have. -/
theorem year_ofDays {days : Int} (hfirst : Date.toDays ⟨-262143, 1, 1⟩ ≤ days)
    (hlast : days ≤ Date.toDays ⟨262142, 12, 31⟩) :
    -262143 ≤ (Date.ofDays days).year ∧ (Date.ofDays days).year ≤ 262142 := by
  have hlow : Date.toDays ⟨-262143, 1, 1⟩ = -96465292 := by decide
  have hhigh : Date.toDays ⟨262142, 12, 31⟩ = 95026236 := by decide
  rw [hlow] at hfirst
  rw [hhigh] at hlast
  obtain ⟨era, year, dayOfYear, hyear, hday, hdays, hdate⟩ := exists_inEra days
  rw [hdate]
  unfold daysBeforeYear at hday hdays
  have hlength : dayOfYear ≤ 365 := by omega
  have hera : -656 ≤ era ∧ era ≤ 655 := by omega
  have hfirstEra : era = -656 → 256 ≤ year ∧ (year = 256 → 306 ≤ dayOfYear) := by omega
  have hlastEra : era = 655 → year ≤ 142 ∧ (year = 142 → dayOfYear ≤ 305) := by omega
  have hmarch : (5 * dayOfYear + 2) / 153 < 10 ↔ dayOfYear ≤ 305 := by omega
  clear hday hdays hfirst hlast
  simp only [Date.inEra]
  split <;> split <;> omega

end WaybillBoard.Time
