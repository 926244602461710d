import WaybillBoard.Proofs.Text.Blank
import WaybillBoard.Time.Period

/-!
Lengths of time are read exactly. A number and a unit between blanks are read as what they stand
for when the number and its seconds fit a word, and nothing else is read.
-/

namespace WaybillBoard.Time

open Text (AllBlank digitsValue dropEnd? dropEnd?_eq_some_iff isBlank isDigit trim)

/-! ### The number -/

/-- Digits after an optional plus, and the number that they make. Zeros may lead. -/
def Numeral (cs : List Char) (n : Nat) : Prop :=
  ∃ digits, digits ≠ [] ∧ (∀ c ∈ digits, isDigit c = true) ∧
    (cs = digits ∨ cs = '+' :: digits) ∧ digitsValue digits = n

theorem numeral_plus_iff {cs : List Char} {n : Nat} : Numeral ('+' :: cs) n ↔
    cs ≠ [] ∧ (∀ c ∈ cs, isDigit c = true) ∧ digitsValue cs = n := by
  constructor
  · rintro ⟨digits, hne, hdigits, rfl | heq, hvalue⟩
    · exact absurd (hdigits '+' List.mem_cons_self) (by decide)
    · obtain rfl := (List.cons.inj heq).2
      exact ⟨hne, hdigits, hvalue⟩
  · rintro ⟨hne, hdigits, hvalue⟩
    exact ⟨cs, hne, hdigits, .inr rfl, hvalue⟩

theorem numeral_cons_iff {c : Char} (h : c ≠ '+') {cs : List Char} {n : Nat} :
    Numeral (c :: cs) n ↔ (∀ d ∈ c :: cs, isDigit d = true) ∧ digitsValue (c :: cs) = n := by
  constructor
  · rintro ⟨digits, -, hdigits, rfl | heq, hvalue⟩
    · exact ⟨hdigits, hvalue⟩
    · exact absurd (List.cons.inj heq).1 h
  · rintro ⟨hdigits, hvalue⟩
    exact ⟨c :: cs, List.cons_ne_nil c cs, hdigits, .inl rfl, hvalue⟩

theorem not_numeral_nil (n : Nat) : ¬ Numeral [] n := by
  rintro ⟨digits, hne, -, heq | heq, -⟩
  · exact hne heq.symm
  · cases heq

theorem Numeral.exists_first {cs : List Char} {n : Nat} (h : Numeral cs n) :
    ∃ c rest, cs = c :: rest ∧ isBlank c = false := by
  obtain ⟨digits, hne, hdigits, rfl | rfl, -⟩ := h
  · obtain ⟨c, rest, rfl⟩ := List.exists_cons_of_ne_nil hne
    exact ⟨c, rest, rfl, Text.isBlank_of_isDigit (hdigits c List.mem_cons_self)⟩
  · exact ⟨'+', digits, rfl, by decide⟩

theorem Numeral.exists_last {cs : List Char} {n : Nat} (h : Numeral cs n) :
    ∃ front c, cs = front ++ [c] ∧ isDigit c = true := by
  obtain ⟨digits, hne, hdigits, hcs, -⟩ := h
  have hlast := hdigits _ (List.getLast_mem hne)
  rcases hcs with rfl | rfl
  · exact ⟨_, _, (List.dropLast_concat_getLast hne).symm, hlast⟩
  · exact ⟨'+' :: digits.dropLast, _, by rw [List.cons_append, List.dropLast_concat_getLast hne],
      hlast⟩

theorem Numeral.unique {cs : List Char} {n m : Nat} (hn : Numeral cs n) (hm : Numeral cs m) :
    n = m := by
  cases cs with
  | nil => exact absurd hn (not_numeral_nil n)
  | cons c cs =>
      by_cases hplus : c = '+'
      · subst hplus
        exact (numeral_plus_iff.mp hn).2.2.symm.trans (numeral_plus_iff.mp hm).2.2
      · exact (numeral_cons_iff hplus |>.mp hn).2.symm.trans (numeral_cons_iff hplus |>.mp hm).2

/-- More digits never make a number smaller, so one that is too large stays so. -/
theorem le_ofDigitChars (cs : List Char) (n : Nat) : n ≤ Nat.ofDigitChars 10 cs n := by
  rw [Nat.ofDigitChars_eq_ofDigitChars_zero]
  exact Nat.le_add_right_of_le (Nat.le_mul_of_pos_left n (Nat.pow_pos (by decide)))

theorem wordFrom_eq_ok_iff {cs : List Char} {n m : Nat} (hn : n < wordLimit) :
    wordFrom n cs = .ok m ↔
      (∀ c ∈ cs, isDigit c = true) ∧ Nat.ofDigitChars 10 cs n = m ∧ m < wordLimit := by
  induction cs generalizing n with
  | nil =>
      simp only [wordFrom, Except.ok.injEq, List.not_mem_nil, false_imp_iff, implies_true,
        Nat.ofDigitChars_nil, true_and]
      exact ⟨fun h => ⟨h, h ▸ hn⟩, And.left⟩
  | cons c cs ih =>
      have hcons : Nat.ofDigitChars 10 (c :: cs) n =
          Nat.ofDigitChars 10 cs (n * 10 + (c.toNat - 48)) := by
        rw [Nat.ofDigitChars_cons, Nat.mul_comm]
        rfl
      rw [List.forall_mem_cons, hcons]
      by_cases hc : isDigit c = true
      · by_cases hnext : n * 10 + (c.toNat - 48) < wordLimit
        · simp only [wordFrom, hc, Bool.not_true, Bool.false_eq_true, if_false, if_pos hnext,
            ih hnext, true_and]
        · simp only [wordFrom, hc, Bool.not_true, Bool.false_eq_true, if_false, if_neg hnext,
            reduceCtorEq, false_iff, true_and, not_and]
          rintro - rfl
          exact Nat.not_lt_of_le ((Nat.le_of_not_lt hnext).trans (le_ofDigitChars cs _))
      · simp [wordFrom, hc]

theorem word_cons {c : Char} (h : c ≠ '+') (cs : List Char) :
    word (c :: cs) = wordFrom 0 (c :: cs) := by
  rw [word]
  · rintro ⟨⟩
  · rintro ⟨⟩
    exact h rfl
  · rintro _ ⟨⟩
    exact h rfl

theorem word_eq_ok_iff {cs : List Char} {n : Nat} :
    word cs = .ok n ↔ Numeral cs n ∧ n < wordLimit := by
  have hfrom (cs : List Char) : wordFrom 0 cs = .ok n ↔
      ((∀ c ∈ cs, isDigit c = true) ∧ digitsValue cs = n) ∧ n < wordLimit := by
    rw [wordFrom_eq_ok_iff (by decide), Text.digitsValue_eq, and_assoc]
  cases cs with
  | nil => exact iff_of_false nofun fun h => not_numeral_nil n h.1
  | cons c cs =>
      by_cases hplus : c = '+'
      · subst hplus
        rw [numeral_plus_iff]
        cases cs with
        | nil => exact iff_of_false nofun fun h => h.1.1 rfl
        | cons d cs => simp only [word, hfrom, ne_eq, reduceCtorEq, not_false_eq_true, true_and]
      · rw [numeral_cons_iff hplus, ← hfrom, word_cons hplus]

/-! ### The unit -/

inductive PeriodUnit where
  | millisecond | second | minute | hour
  deriving DecidableEq, Repr

namespace PeriodUnit

def suffix : PeriodUnit → List Char
  | millisecond => ['m', 's']
  | second => ['s']
  | minute => ['m']
  | hour => ['h']

def millis : PeriodUnit → Nat
  | millisecond => 1
  | second => 1000
  | minute => 60 * 1000
  | hour => 60 * 60 * 1000

/-- What a number is multiplied by before it has to fit a word: the seconds of a unit, where those
are counted. -/
def factor : PeriodUnit → Nat
  | millisecond => 1
  | second => 1
  | minute => 60
  | hour => 60 * 60

/-- The units in the order in which they are looked for. Seconds end milliseconds as well. -/
def order : List PeriodUnit := [millisecond, second, minute, hour]

/-- What the digits before a unit stand for. -/
def period (unit : PeriodUnit) (digits : List Char) : Except PeriodError Period :=
  match word digits with
  | .error e => .error (.invalidNumber e)
  | .ok n =>
    if n * unit.factor < wordLimit then .ok ⟨n * unit.millis⟩ else .error .tooLarge

/-- The unit at the end of a text and what stands before it. -/
def split? (cs : List Char) : Option (List Char × PeriodUnit) :=
  order.findSome? fun unit => (dropEnd? unit.suffix cs).map (·, unit)

theorem split?_eq_some {cs digits : List Char} {unit : PeriodUnit}
    (h : split? cs = some (digits, unit)) : cs = digits ++ unit.suffix := by
  obtain ⟨found, -, hfound⟩ := List.exists_of_findSome?_eq_some h
  obtain ⟨front, hfront, heq⟩ := Option.map_eq_some_iff.mp hfound
  obtain ⟨rfl, rfl⟩ := Prod.mk.inj heq
  exact dropEnd?_eq_some_iff.mp hfront

/-- No unit that is looked for earlier ends a number with its unit. -/
theorem split?_append {digits : List Char} {n : Nat} (h : Numeral digits n) (unit : PeriodUnit) :
    split? (digits ++ unit.suffix) = some (digits, unit) := by
  obtain ⟨front, c, rfl, hc⟩ := h.exists_last
  have hletter : 'm' ≠ c := by
    rintro rfl
    exact absurd hc (by decide)
  cases unit <;>
    simp [split?, order, suffix, dropEnd?, Text.dropStart?, List.findSome?, hletter]

theorem period_eq_ok_iff {unit : PeriodUnit} {digits : List Char} {p : Period} :
    unit.period digits = .ok p ↔ ∃ n, Numeral digits n ∧ n < wordLimit ∧
      n * unit.factor < wordLimit ∧ p = ⟨n * unit.millis⟩ := by
  constructor
  · intro h
    cases hword : word digits with
    | error e =>
        simp only [period, hword] at h
        cases h
    | ok n =>
        obtain ⟨hn, hlt⟩ := word_eq_ok_iff.mp hword
        simp only [period, hword] at h
        by_cases hfits : n * unit.factor < wordLimit
        · rw [if_pos hfits] at h
          exact ⟨n, hn, hlt, hfits, (Except.ok.inj h).symm⟩
        · rw [if_neg hfits] at h
          cases h
  · rintro ⟨n, hn, hlt, hfits, rfl⟩
    simp only [period, word_eq_ok_iff.mpr ⟨hn, hlt⟩, if_pos hfits]

theorem ofWord_factor (unit : PeriodUnit) (h : unit.millis = unit.factor * 1000)
    (digits : List Char) : Period.ofWord unit.factor digits = unit.period digits := by
  rw [Period.ofWord, period, h]
  cases word digits with
  | error e => rfl
  | ok n => simp only [Nat.mul_assoc]

theorem period_millisecond (digits : List Char) :
    millisecond.period digits = match word digits with
      | .error e => .error (.invalidNumber e)
      | .ok n => .ok ⟨n⟩ := by
  rw [period]
  cases hword : word digits with
  | error e => rfl
  | ok n => simp [factor, millis, (word_eq_ok_iff.mp hword).2]

end PeriodUnit

open PeriodUnit (second minute hour)

theorem Period.read_eq (s : String) :
    Period.read s = match PeriodUnit.split? (trim s.toList) with
      | none => .error (.unknownForm (String.ofList (trim s.toList)))
      | some (digits, unit) => unit.period digits := by
  rw [Period.read]
  generalize trim s.toList = cs
  simp only [PeriodUnit.split?, PeriodUnit.order, PeriodUnit.suffix, List.findSome?]
  cases dropEnd? ['m', 's'] cs with
  | some digits => exact (PeriodUnit.period_millisecond digits).symm
  | none =>
      cases dropEnd? ['s'] cs with
      | some digits => exact PeriodUnit.ofWord_factor second rfl digits
      | none =>
          cases dropEnd? ['m'] cs with
          | some digits => exact PeriodUnit.ofWord_factor minute rfl digits
          | none =>
              cases dropEnd? ['h'] cs with
              | some digits => exact PeriodUnit.ofWord_factor hour rfl digits
              | none => rfl

/-! ### The text -/

/-- A number and a unit stand in a text, with blanks around them. -/
def Spelled (cs : List Char) (n : Nat) (unit : PeriodUnit) : Prop :=
  ∃ before numeral after, AllBlank before ∧ AllBlank after ∧ Numeral numeral n ∧
    cs = before ++ (numeral ++ unit.suffix) ++ after

theorem spelled_iff {cs : List Char} {n : Nat} {unit : PeriodUnit} :
    Spelled cs n unit ↔ ∃ numeral, Numeral numeral n ∧ trim cs = numeral ++ unit.suffix := by
  constructor
  · rintro ⟨before, numeral, after, hbefore, hafter, hnumeral, rfl⟩
    obtain ⟨c, rest, heq, hc⟩ := hnumeral.exists_first
    refine ⟨numeral, hnumeral, Text.trim_between hbefore hafter ?_ ?_ ?_⟩
    · simp [heq]
    · simp [heq, hc]
    · intro d hd
      cases unit <;> simp [PeriodUnit.suffix] at hd <;> subst hd <;> decide
  · rintro ⟨numeral, hnumeral, htrim⟩
    obtain ⟨before, after, hbefore, hafter, heq⟩ := Text.exists_trim cs
    exact ⟨before, numeral, after, hbefore, hafter, hnumeral, htrim ▸ heq⟩

theorem Spelled.unique {cs : List Char} {n n' : Nat} {unit unit' : PeriodUnit}
    (h : Spelled cs n unit) (h' : Spelled cs n' unit') : n = n' ∧ unit = unit' := by
  obtain ⟨numeral, hnumeral, htrim⟩ := spelled_iff.mp h
  obtain ⟨numeral', hnumeral', htrim'⟩ := spelled_iff.mp h'
  have hsplit := PeriodUnit.split?_append hnumeral unit
  rw [← htrim, htrim', PeriodUnit.split?_append hnumeral'] at hsplit
  cases hsplit
  exact ⟨hnumeral.unique hnumeral', rfl⟩

/-- A text is read as what is spelled in it, and only if that fits. -/
structure ReadsExactly (s : String) : Prop where
  ok_iff : ∀ p, Period.read s = .ok p ↔ ∃ n unit, Spelled s.toList n unit ∧ n ≤ 2 ^ 64 - 1 ∧
    n * unit.factor ≤ 2 ^ 64 - 1 ∧ p = ⟨n * unit.millis⟩
  /-- No text spells two numbers or two units. -/
  unique : ∀ n unit n' unit', Spelled s.toList n unit → Spelled s.toList n' unit' →
    n = n' ∧ unit = unit'
  seconds_le : ∀ p, Period.read s = .ok p → p.seconds ≤ 2 ^ 64 - 1

theorem read_eq_ok_iff {s : String} {p : Period} :
    Period.read s = .ok p ↔ ∃ n unit, Spelled s.toList n unit ∧ n < wordLimit ∧
      n * unit.factor < wordLimit ∧ p = ⟨n * unit.millis⟩ := by
  rw [Period.read_eq]
  constructor
  · intro h
    cases hsplit : PeriodUnit.split? (trim s.toList) with
    | none =>
        rw [hsplit] at h
        cases h
    | some found =>
        obtain ⟨digits, unit⟩ := found
        rw [hsplit] at h
        obtain ⟨n, hn, hlt, hfits, rfl⟩ := PeriodUnit.period_eq_ok_iff.mp h
        exact ⟨n, unit, spelled_iff.mpr ⟨digits, hn, PeriodUnit.split?_eq_some hsplit⟩, hlt, hfits,
          rfl⟩
  · rintro ⟨n, unit, hspelled, hlt, hfits, rfl⟩
    obtain ⟨numeral, hnumeral, htrim⟩ := spelled_iff.mp hspelled
    rw [htrim, PeriodUnit.split?_append hnumeral]
    exact PeriodUnit.period_eq_ok_iff.mpr ⟨n, hnumeral, hlt, hfits, rfl⟩

theorem PeriodUnit.millis_le (unit : PeriodUnit) : unit.millis ≤ unit.factor * 1000 := by
  cases unit <;> decide

theorem read_exactly (s : String) : ReadsExactly s := by
  have hword (n : Nat) : n ≤ 2 ^ 64 - 1 ↔ n < wordLimit := Nat.lt_succ_iff.symm
  refine ⟨fun p => ?_, fun n unit n' unit' h h' => h.unique h', fun p h => ?_⟩
  · simp only [hword]
    exact read_eq_ok_iff
  · obtain ⟨n, unit, -, -, hfits, rfl⟩ := read_eq_ok_iff.mp h
    have hmillis : n * unit.millis ≤ n * unit.factor * 1000 := by
      rw [Nat.mul_assoc]
      exact Nat.mul_le_mul_left n unit.millis_le
    calc (⟨n * unit.millis⟩ : Period).seconds ≤ n * unit.factor * 1000 / 1000 :=
          Nat.div_le_div_right hmillis
      _ = n * unit.factor := Nat.mul_div_cancel _ (by decide)
      _ ≤ 2 ^ 64 - 1 := (hword _).mpr hfits

/-- The most hours that there are, with a plus and a zero between blanks, and one more. -/
theorem read_exactly_hours :
    Period.read "\t+05124095576030431h " = .ok ⟨5124095576030431 * (60 * 60 * 1000)⟩ ∧
      ∀ p, Period.read "5124095576030432h" ≠ .ok p := by
  have hdigits : ∀ c ∈ "05124095576030431".toList, isDigit c = true :=
    List.all_eq_true.mp (by decide)
  have hmore : ∀ c ∈ "5124095576030432".toList, isDigit c = true := List.all_eq_true.mp (by decide)
  have hblank {c : Char} (h : isBlank c = true) : AllBlank [c] := List.forall_mem_singleton.mpr h
  refine ⟨?_, fun p hp => ?_⟩
  · refine ((read_exactly _).ok_iff _).mpr ⟨5124095576030431, hour, ?_, by decide, by decide, rfl⟩
    exact ⟨['\t'], "+05124095576030431".toList, [' '], hblank (by decide), hblank (by decide),
      ⟨_, by decide, hdigits, .inr rfl, by decide⟩, by decide⟩
  · obtain ⟨n, unit, hspelled, -, hfits, -⟩ := ((read_exactly _).ok_iff _).mp hp
    have hwritten : Spelled "5124095576030432h".toList 5124095576030432 hour :=
      ⟨[], "5124095576030432".toList, [], List.forall_mem_nil _, List.forall_mem_nil _,
        ⟨_, by decide, hmore, .inl rfl, by decide⟩, by decide⟩
    obtain ⟨rfl, rfl⟩ := (read_exactly _).unique _ _ _ _ hspelled hwritten
    exact absurd hfits (by decide)

end WaybillBoard.Time
