import WaybillBoard.Proofs.Text.Digits
import WaybillBoard.Proofs.Time.Calendar
import WaybillBoard.Time.Rfc3339

/-!
Instants as text, there and back. Each part of the written form is read by its own reader up to the
character after it, which is never a digit.
-/

namespace WaybillBoard.Time

open Text

/-- A leap second ends a minute, and the day is one that can be written. -/
structure Instant.IsValid (t : Instant) : Prop where
  nanos_lt : t.nanos < 2 * nanosPerSecond
  endsMinute : t.isLeap = true → t.seconds % 60 = 59
  inRange : Rfc3339.isInRange t = true

namespace Rfc3339

/-! ### The parts of a text -/

theorem number?_digits {most : Nat} {digits rest : List Char}
    (hdigits : ∀ c ∈ digits, isDigit c = true) (hne : digits ≠ []) (hlen : digits.length ≤ most)
    (hrest : EndsNumber rest) :
    number? most (digits ++ rest) = some (digitsValue digits, rest) := by
  have htake : ((digits ++ rest).take most).takeWhile isDigit = digits := by
    rw [List.take_append, List.take_of_length_le hlen, List.takeWhile_append_of_pos hdigits,
      takeWhile_take_of_endsNumber hrest, List.append_nil]
  simp [number?, htake, hne]

theorem number?_paddedDigits {most width n : Nat} {rest : List Char} (hwidth : 0 < width)
    (hn : n < 10 ^ width) (hmost : width ≤ most) (hrest : EndsNumber rest) :
    number? most (paddedDigits width n ++ rest) = some (n, rest) := by
  have hlen := length_paddedDigits hwidth hn
  rw [number?_digits (fun _ => isDigit_of_mem_paddedDigits) (List.ne_nil_of_length_pos (by omega))
    (by omega) hrest, digitsValue_paddedDigits]

theorem paddedDigits_ne_nil (width n : Nat) : paddedDigits width n ≠ [] :=
  List.append_ne_nil_of_right_ne_nil _ (natDigits_ne_nil n)

theorem field?_paddedDigits {low high n : Nat} {rest : List Char} (hlow : low ≤ n)
    (hhigh : n ≤ high) (hlt : n < 100) (hrest : EndsNumber rest) :
    field? 2 low high (paddedDigits 2 n ++ rest) = some (n, rest) := by
  unfold field?
  rw [trimStart_digits (fun _ => isDigit_of_mem_paddedDigits) (paddedDigits_ne_nil 2 n),
    number?_paddedDigits (by decide) hlt (Nat.le_refl 2) hrest]
  simp [hlow, hhigh]

theorem year?_digits {digits rest : List Char} (hdigits : ∀ c ∈ digits, isDigit c = true)
    (hlen : digits.length = 4) (hrest : EndsNumber rest) :
    year? (digits ++ rest) = some ((digitsValue digits : Int), rest) := by
  have hne : digits ≠ [] := List.ne_nil_of_length_pos (by omega)
  obtain ⟨d, ds, hcons⟩ := List.exists_cons_of_ne_nil hne
  have hd : isDigit d = true := hdigits d (hcons ▸ List.mem_cons_self)
  -- A sign is no digit, so the first two forms are not this one.
  unfold year?
  rw [trimStart_digits hdigits hne]
  split
  · next h =>
    rw [hcons] at h
    injection h with hsign
    subst hsign
    contradiction
  · next h =>
    rw [hcons] at h
    injection h with hsign
    subst hsign
    contradiction
  · rw [number?_digits hdigits hne (by omega) hrest, Option.map_some]

theorem year?_yearText {year : Int} {rest : List Char} (hrest : EndsNumber rest) :
    year? (yearText year ++ rest) = some (year, rest) := by
  unfold yearText
  split
  · next hyear =>
    rw [year?_digits (fun _ => isDigit_of_mem_paddedDigits)
      (length_paddedDigits (by decide) (by omega)) hrest, digitsValue_paddedDigits]
    rw [Int.toNat_of_nonneg hyear.1]
  · have hmost : (paddedDigits 4 year.natAbs).length ≤
        (paddedDigits 4 year.natAbs ++ rest).length := by simp
    have hread := number?_digits (fun _ => isDigit_of_mem_paddedDigits)
      (paddedDigits_ne_nil 4 year.natAbs) hmost hrest
    rw [digitsValue_paddedDigits] at hread
    split
    · have hyear : -(year.natAbs : Int) = year := by omega
      simp only [List.cons_append, year?, trimStart_cons (by decide : isBlank '-' = false), hread,
        Option.map_some, hyear]
    · have hyear : (year.natAbs : Int) = year := by omega
      simp only [List.cons_append, year?, trimStart_cons (by decide : isBlank '+' = false), hread,
        Option.map_some, hyear]

theorem after?_cons {mark : Char} (h : isBlank mark = false) (rest : List Char) :
    after? mark (mark :: rest) = some rest := by
  simp [after?, trimStart_cons h]

theorem fraction?_point {width n : Nat} {rest : List Char} (hwidth : 0 < width) (hle : width ≤ 9)
    (hn : n < 10 ^ width) (hrest : EndsNumber rest) :
    fraction? ('.' :: paddedDigits width n ++ rest) = some (n * 10 ^ (9 - width), rest) := by
  have hread := number?_paddedDigits hwidth hn hle hrest
  have hdrop : rest.dropWhile isDigit = rest := by
    cases rest with
    | nil => rfl
    | cons c cs => exact List.dropWhile_cons_of_neg (by simp [hrest c rfl])
  have hcount : (paddedDigits width n ++ rest).length - rest.length = width := by
    rw [List.length_append, length_paddedDigits hwidth hn, Nat.add_sub_cancel]
  simp only [List.cons_append, fraction?, hread, Option.bind_eq_bind, Option.bind_some, hcount,
    hdrop, Nat.pow_eq]

theorem fraction?_fractionText {nanos : Nat} (h : nanos < nanosPerSecond) (rest : List Char) :
    fraction? (fractionText nanos ++ 'Z' :: rest) = some (nanos, 'Z' :: rest) := by
  have hrest : EndsNumber ('Z' :: rest) := endsNumber_cons (by decide) rest
  unfold nanosPerSecond at h
  unfold fractionText
  split
  · next hzero =>
    subst hzero
    rfl
  · split
    · rw [fraction?_point (by decide) (by decide) (by omega) hrest]
      simp
      omega
    · split
      · rw [fraction?_point (by decide) (by decide) (by omega) hrest]
        simp
        omega
      · rw [fraction?_point (by decide) (by decide) (by omega) hrest]
        simp

theorem endsNumber_fractionText (nanos : Nat) (rest : List Char) :
    EndsNumber (fractionText nanos ++ 'Z' :: rest) := by
  unfold fractionText
  split
  · exact endsNumber_cons (by decide) rest
  · split
    · exact endsNumber_cons (by decide) _
    · split <;> exact endsNumber_cons (by decide) _

/-! ### Whole texts -/

theorem bind_of_eq_some {α β : Type} {x : Option α} {a : α} (h : x = some a)
    (f : α → Option β) : (x >>= f) = f a := by
  rw [h]
  rfl

theorem day_le_of_isValid {d : Date} (h : d.isValid = true) : d.day ≤ 31 := by
  simp only [Date.isValid, Bool.and_eq_true, decide_eq_true_eq] at h
  have hmonth : daysInMonth d.year d.month ≤ 31 := by
    unfold daysInMonth
    split
    · split <;> decide
    · split <;> decide
  omega

/-- The instant of a date and of what a clock shows, which is a sixtieth second in a leap second. -/
def ofClock (date : Date) (hour minute second nanos : Nat) : Instant :=
  let leap := if second = 60 then 1 else 0
  ⟨date.toDays * secondsPerDay + (hour * 3600 + minute * 60 + second - leap : Nat),
    nanos + leap * nanosPerSecond⟩

theorem read_parts {date : Date} {hour minute second nanos : Nat} (hdate : date.isValid = true)
    (hyear : -262143 ≤ date.year ∧ date.year ≤ 262142) (hhour : hour ≤ 23) (hminute : minute ≤ 59)
    (hsecond : second ≤ 60) (hnanos : nanos < nanosPerSecond)
    (hrange : isInRange (ofClock date hour minute second nanos) = true) :
    read (yearText date.year ++ '-' :: (paddedDigits 2 date.month ++ '-' ::
      (paddedDigits 2 date.day ++ 'T' :: (paddedDigits 2 hour ++ ':' ::
        (paddedDigits 2 minute ++ ':' :: (paddedDigits 2 second ++
          (fractionText nanos ++ ['Z']))))))) =
      some (ofClock date hour minute second nanos) := by
  have hday := day_le_of_isValid hdate
  have hfields := hdate
  simp only [Date.isValid, Bool.and_eq_true, decide_eq_true_eq] at hfields
  obtain ⟨⟨⟨hmonth, hmonth'⟩, hday'⟩, -⟩ := hfields
  have hoffset : offset? (trimStart ['Z']) = some (0, []) := by decide
  -- Each part is read up to the mark that follows it, and the mark after that.
  unfold read
  refine (bind_of_eq_some (year?_yearText (endsNumber_cons (by decide) _)) _).trans ?_
  refine (bind_of_eq_some (after?_cons (by decide) _) _).trans ?_
  refine (bind_of_eq_some (field?_paddedDigits hmonth hmonth' (by omega)
    (endsNumber_cons (by decide) _)) _).trans ?_
  refine (bind_of_eq_some (after?_cons (by decide) _) _).trans ?_
  refine (bind_of_eq_some (field?_paddedDigits hday' hday (by omega)
    (endsNumber_cons (by decide) _)) _).trans ?_
  refine (if_pos (.inl rfl)).trans ?_
  refine (bind_of_eq_some (field?_paddedDigits (Nat.zero_le _) hhour (by omega)
    (endsNumber_cons (by decide) _)) _).trans ?_
  refine (bind_of_eq_some (after?_cons (by decide) _) _).trans ?_
  refine (bind_of_eq_some (field?_paddedDigits (Nat.zero_le _) hminute (by omega)
    (endsNumber_cons (by decide) _)) _).trans ?_
  refine (bind_of_eq_some (after?_cons (by decide) _) _).trans ?_
  refine (bind_of_eq_some (field?_paddedDigits (Nat.zero_le _) hsecond (by omega)
    (endsNumber_fractionText _ [])) _).trans ?_
  refine (bind_of_eq_some (fraction?_fractionText hnanos []) _).trans ?_
  refine (bind_of_eq_some hoffset _).trans ?_
  refine (if_neg (by simp [trimStart, hdate, hyear])).trans ?_
  simp only [ofClock, Int.sub_zero] at hrange ⊢
  exact if_pos hrange

/-- The seconds that a clock shows beyond the last of a minute. -/
def leapSeconds (t : Instant) : Nat := if t.isLeap then 1 else 0

theorem write_eq (t : Instant) : write t =
    yearText t.date.year ++ '-' :: (paddedDigits 2 t.date.month ++ '-' ::
      (paddedDigits 2 t.date.day ++ 'T' :: (paddedDigits 2 (t.secondOfDay.toNat / 3600) ++ ':' ::
        (paddedDigits 2 (t.secondOfDay.toNat / 60 % 60) ++ ':' ::
          (paddedDigits 2 (t.secondOfDay.toNat % 60 + leapSeconds t) ++
            (fractionText (t.nanos - leapSeconds t * nanosPerSecond) ++ ['Z'])))))) := by
  simp [write, Date.text, Instant.clockText, Instant.clock, leapSeconds]

theorem secondOfDay_lt (t : Instant) : t.secondOfDay.toNat < 86400 := by
  unfold Instant.secondOfDay secondsPerDay
  omega

/-- A clock shows a sixtieth second exactly in a leap second. -/
theorem shown_eq_sixty_iff {t : Instant} (h : t.IsValid) :
    t.secondOfDay.toNat % 60 + leapSeconds t = 60 ↔ leapSeconds t = 1 := by
  have hminute := h.endsMinute
  unfold leapSeconds Instant.secondOfDay secondsPerDay
  cases hleap : t.isLeap with
  | false =>
      simp only [Bool.false_eq_true, if_false]
      omega
  | true =>
      have hend := hminute hleap
      simp only [if_true, iff_true]
      omega

theorem fraction_lt {t : Instant} (h : t.IsValid) :
    t.nanos - leapSeconds t * nanosPerSecond < nanosPerSecond := by
  have hnanos := h.nanos_lt
  unfold leapSeconds Instant.isLeap
  unfold nanosPerSecond at *
  by_cases hleap : 1000000000 ≤ t.nanos <;> simp [hleap] <;> omega

/-- The instant is the one of its date and of what its clock shows. -/
theorem ofClock_eq {t : Instant} (h : t.IsValid) :
    ofClock t.date (t.secondOfDay.toNat / 3600) (t.secondOfDay.toNat / 60 % 60)
      (t.secondOfDay.toNat % 60 + leapSeconds t) (t.nanos - leapSeconds t * nanosPerSecond) =
        t := by
  have hdays : t.date.toDays = t.seconds / 86400 := toDays_ofDays _
  have hsecond : (t.secondOfDay.toNat : Int) = t.seconds % 86400 := by
    unfold Instant.secondOfDay secondsPerDay
    omega
  have hnanos : leapSeconds t * nanosPerSecond ≤ t.nanos := by
    unfold leapSeconds Instant.isLeap
    by_cases hleap : nanosPerSecond ≤ t.nanos <;> simp [hleap]
  have hshown : (if t.secondOfDay.toNat % 60 + leapSeconds t = 60 then 1 else 0) =
      leapSeconds t := by
    simp only [shown_eq_sixty_iff h]
    unfold leapSeconds
    split <;> rfl
  simp only [ofClock, hshown, Nat.sub_add_cancel hnanos, hdays]
  congr 1
  unfold secondsPerDay
  omega

theorem read_write {t : Instant} (h : t.IsValid) : read (write t) = some t := by
  have hyear : -262143 ≤ t.date.year ∧ t.date.year ≤ 262142 := by
    have hrange := h.inRange
    simp only [isInRange, Bool.and_eq_true, decide_eq_true_eq] at hrange
    exact year_ofDays hrange.1 hrange.2
  have hsecond := secondOfDay_lt t
  have hle : t.secondOfDay.toNat % 60 + leapSeconds t ≤ 60 := by
    unfold leapSeconds
    split <;> omega
  have hdate : t.date.isValid = true := isValid_ofDays _
  have hclock := ofClock_eq h
  rw [write_eq, read_parts hdate hyear (by omega) (by omega) hle (fraction_lt h)
    (hclock.symm ▸ h.inRange), hclock]

/-! ### What can be read -/

theorem number?_eq_some {most n : Nat} {cs rest : List Char}
    (h : number? most cs = some (n, rest)) :
    n < 10 ^ (cs.length - rest.length) ∧ cs.length - rest.length ≤ most := by
  simp only [number?] at h
  split at h
  · cases h
  · simp only [Option.some.injEq, Prod.mk.injEq] at h
    obtain ⟨rfl, rfl⟩ := h
    obtain ⟨digits, hds⟩ : ∃ digits, digits = (cs.take most).takeWhile isDigit := ⟨_, rfl⟩
    rw [← hds]
    have hdigits : ∀ c ∈ digits, isDigit c = true := by
      rw [hds]
      exact List.all_eq_true.mp List.all_takeWhile
    have hlen : digits.length ≤ (cs.take most).length := by
      rw [hds]
      exact (List.takeWhile_sublist _).length_le
    rw [List.length_take] at hlen
    have hcount : cs.length - (cs.drop digits.length).length = digits.length := by
      rw [List.length_drop]
      omega
    rw [hcount]
    exact ⟨digitsValue_lt hdigits, by omega⟩

theorem field?_eq_some {most low high n : Nat} {cs rest : List Char}
    (h : field? most low high cs = some (n, rest)) : n ≤ high := by
  simp only [field?, Option.bind_eq_bind, Option.bind_eq_some_iff] at h
  obtain ⟨⟨m, more⟩, -, h⟩ := h
  split at h
  · next hbounds =>
    simp only [Option.some.injEq, Prod.mk.injEq] at h
    omega
  · cases h

theorem fraction?_eq_some {nanos : Nat} {cs rest : List Char}
    (h : fraction? cs = some (nanos, rest)) : nanos < nanosPerSecond := by
  unfold fraction? at h
  split at h
  · next cs =>
    simp only [Option.bind_eq_bind, Option.bind_eq_some_iff, Option.some.injEq, Prod.mk.injEq] at h
    obtain ⟨⟨n, more⟩, hread, rfl, -⟩ := h
    obtain ⟨hlt, hle⟩ := number?_eq_some hread
    calc n * 10 ^ (9 - (cs.length - more.length))
        < 10 ^ (cs.length - more.length) * 10 ^ (9 - (cs.length - more.length)) :=
          Nat.mul_lt_mul_of_pos_right hlt (Nat.pow_pos (by decide))
      _ = 10 ^ 9 := by rw [← Nat.pow_add, Nat.add_sub_cancel' hle]
      _ = nanosPerSecond := rfl
  · simp only [Option.some.injEq, Prod.mk.injEq] at h
    rw [← h.1]
    decide

/-- Offsets are whole minutes. -/
theorem offset?_eq_some {seconds : Int} {cs rest : List Char}
    (h : offset? cs = some (seconds, rest)) : seconds % 60 = 0 := by
  unfold offset? at h
  split at h
  · cases h
  · split at h
    · simp only [Option.some.injEq, Prod.mk.injEq] at h
      omega
    · split at h
      · simp only [Option.some.injEq, Prod.mk.injEq] at h
        omega
      · split at h
        · simp only [Option.bind_eq_bind, Option.bind_eq_some_iff] at h
          obtain ⟨⟨hours, _⟩, -, ⟨minutes, _⟩, -, h⟩ := h
          split at h
          · cases h
          · simp only [Option.some.injEq, Prod.mk.injEq] at h
            obtain ⟨rfl, -⟩ := h
            split <;> omega
        · cases h

theorem isValid_of_read {cs : List Char} {t : Instant} (h : read cs = some t) : t.IsValid := by
  unfold read at h
  obtain ⟨⟨year, _⟩, -, h⟩ := Option.bind_eq_some_iff.mp h
  obtain ⟨_, -, h⟩ := Option.bind_eq_some_iff.mp h
  obtain ⟨⟨month, _⟩, -, h⟩ := Option.bind_eq_some_iff.mp h
  obtain ⟨_, -, h⟩ := Option.bind_eq_some_iff.mp h
  obtain ⟨⟨day, rest⟩, -, h⟩ := Option.bind_eq_some_iff.mp h
  dsimp only at h
  split at h
  · split at h
    · obtain ⟨_, -, h⟩ := Option.bind_eq_some_iff.mp h
      obtain ⟨⟨hour, _⟩, -, h⟩ := Option.bind_eq_some_iff.mp h
      obtain ⟨_, -, h⟩ := Option.bind_eq_some_iff.mp h
      obtain ⟨⟨minute, _⟩, -, h⟩ := Option.bind_eq_some_iff.mp h
      obtain ⟨_, -, h⟩ := Option.bind_eq_some_iff.mp h
      obtain ⟨⟨second, _⟩, hsecond, h⟩ := Option.bind_eq_some_iff.mp h
      obtain ⟨⟨nanos, _⟩, hnanos, h⟩ := Option.bind_eq_some_iff.mp h
      obtain ⟨⟨offset, _⟩, hoffset, h⟩ := Option.bind_eq_some_iff.mp h
      have hsixty := field?_eq_some hsecond
      have hfraction := fraction?_eq_some hnanos
      have hminutes := offset?_eq_some hoffset
      simp only [nanosPerSecond, secondsPerDay] at hfraction h
      split at h
      · cases h
      · -- A leap second is read from a sixtieth second, which follows whole minutes.
        split at h
        · next hleap =>
          split at h
          · next hrange =>
            obtain rfl := Option.some.inj h
            exact ⟨by simp only [nanosPerSecond]; omega, fun _ => by simp only; omega, hrange⟩
          · cases h
        · next hleap =>
          split at h
          · next hrange =>
            obtain rfl := Option.some.inj h
            refine ⟨by simp only [nanosPerSecond]; omega, fun hshown => ?_, hrange⟩
            have hle : 1000000000 ≤ nanos + 0 * 1000000000 := of_decide_eq_true hshown
            omega
          · cases h
    · cases h
  · cases h

end Rfc3339

end WaybillBoard.Time
