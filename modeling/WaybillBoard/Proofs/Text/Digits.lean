import Mathlib.Algebra.Group.Nat.Defs
import WaybillBoard.Text.Blank

/-!
Decimal digits: a number is read back from its digits, also when zeros stand in front of them.
-/

namespace WaybillBoard.Text

theorem isDigit_iff {c : Char} : isDigit c = true ↔ 48 ≤ c.toNat ∧ c.toNat ≤ 57 := by
  rw [show isDigit c = c.isDigit from rfl, Char.isDigit_iff_toNat]
  rfl

theorem isBlank_of_isDigit {c : Char} (h : isDigit c = true) : isBlank c = false := by
  rw [isDigit_iff] at h
  simp only [isBlank, Bool.or_eq_false_iff, Bool.and_eq_false_iff, decide_eq_false_iff_not,
    beq_eq_false_iff_ne]
  omega

theorem digitsValue_eq (cs : List Char) : digitsValue cs = Nat.ofDigitChars 10 cs 0 := by
  simp only [digitsValue, Nat.ofDigitChars, Nat.mul_comm 10]
  rfl

@[simp] theorem digitsValue_natDigits (n : Nat) : digitsValue (natDigits n) = n := by
  rw [digitsValue_eq, natDigits, Nat.ofDigitChars_toDigits (by decide) (by decide)]

theorem isDigit_of_mem_natDigits {n : Nat} {c : Char} (h : c ∈ natDigits n) : isDigit c = true :=
  Nat.isDigit_of_mem_toDigits (by decide) (by decide) h

theorem natDigits_of_lt {n : Nat} (h : n < 10) : natDigits n = [n.digitChar] :=
  Nat.toDigits_of_lt_base h

theorem natDigits_of_le {n : Nat} (h : 10 ≤ n) :
    natDigits n = natDigits (n / 10) ++ natDigits (n % 10) := by
  have happend := Nat.toDigits_append_toDigits (b := 10) (n := n / 10) (d := n % 10)
    (by decide) (by omega) (by omega)
  rw [Nat.div_add_mod] at happend
  exact happend.symm

/-- The digits of a number begin with a zero only if they are that one digit. -/
theorem natDigits_eq_cons {n : Nat} (h : n ≠ 0) : ∃ c cs, natDigits n = c :: cs ∧ c ≠ '0' := by
  induction n using Nat.strongRecOn with
  | ind n ih =>
    by_cases hlt : n < 10
    · have hdigit : ∀ n < 10, n ≠ 0 → n.digitChar ≠ '0' := by decide
      exact ⟨n.digitChar, [], natDigits_of_lt hlt, hdigit n hlt h⟩
    · obtain ⟨c, cs, hcs, hc⟩ := ih (n / 10) (by omega) (by omega)
      refine ⟨c, cs ++ natDigits (n % 10), ?_, hc⟩
      rw [natDigits_of_le (by omega), hcs, List.cons_append]

theorem natDigits_ne_nil (n : Nat) : natDigits n ≠ [] := by
  by_cases h : n = 0
  · subst h
    decide
  · obtain ⟨c, cs, hcs, -⟩ := natDigits_eq_cons h
    rw [hcs]
    exact List.cons_ne_nil c cs

theorem natDigits_inj {a b : Nat} : natDigits a = natDigits b ↔ a = b := by
  refine ⟨fun h => ?_, congrArg natDigits⟩
  have hvalue := congrArg digitsValue h
  rwa [digitsValue_natDigits, digitsValue_natDigits] at hvalue

theorem natDigits_append_ne_cons {c : Char} (hc : isDigit c = false) (n : Nat)
    (cs ds : List Char) : natDigits n ++ cs ≠ c :: ds := by
  intro h
  obtain ⟨digit, digits, hdigits⟩ := List.exists_cons_of_ne_nil (natDigits_ne_nil n)
  have hdigit : isDigit digit = true :=
    isDigit_of_mem_natDigits (n := n) (hdigits ▸ List.mem_cons_self)
  rw [hdigits, List.cons_append] at h
  rw [(List.cons.inj h).1, hc] at hdigit
  exact Bool.false_ne_true hdigit

theorem length_paddedDigits {width n : Nat} (hwidth : 0 < width) (h : n < 10 ^ width) :
    (paddedDigits width n).length = width := by
  have hle := (Nat.length_toDigits_le_iff (b := 10) (by decide) hwidth).mpr h
  simp only [paddedDigits, natDigits, List.length_append, List.length_replicate]
  omega

theorem isDigit_of_mem_paddedDigits {width n : Nat} {c : Char} (h : c ∈ paddedDigits width n) :
    isDigit c = true := by
  rcases List.mem_append.mp h with h | h
  · rw [List.eq_of_mem_replicate h]
    rfl
  · exact isDigit_of_mem_natDigits h

@[simp] theorem digitsValue_paddedDigits (width n : Nat) :
    digitsValue (paddedDigits width n) = n := by
  rw [digitsValue_eq, paddedDigits, Nat.ofDigitChars_append, Nat.ofDigitChars_replicate_zero,
    Nat.mul_zero, ← digitsValue_eq, digitsValue_natDigits]

theorem digitsValue_lt {cs : List Char} (h : ∀ c ∈ cs, isDigit c = true) :
    digitsValue cs < 10 ^ cs.length := by
  induction cs with
  | nil => decide
  | cons c cs ih =>
      have hc := isDigit_iff.mp (h c List.mem_cons_self)
      have hcs := ih fun d hd => h d (List.mem_cons_of_mem c hd)
      have hvalue : digitsValue (c :: cs) = 10 ^ cs.length * (c.toNat - 48) + digitsValue cs := by
        simp only [digitsValue_eq]
        rw [Nat.ofDigitChars_cons, Nat.ofDigitChars_eq_ofDigitChars_zero, Nat.mul_zero,
          Nat.zero_add]
        rfl
      have hmul : 10 ^ cs.length * (c.toNat - 48) ≤ 10 ^ cs.length * 9 :=
        Nat.mul_le_mul_left _ (by omega)
      rw [hvalue, List.length_cons, Nat.pow_succ]
      omega

/-! ### Numbers within a text -/

/-- A number ends before this. -/
def EndsNumber (rest : List Char) : Prop := ∀ c ∈ rest.head?, isDigit c = false

theorem endsNumber_cons {c : Char} (h : isDigit c = false) (rest : List Char) :
    EndsNumber (c :: rest) := by
  rintro _ ⟨⟩
  exact h

theorem takeWhile_take_of_endsNumber {rest : List Char} (h : EndsNumber rest) (most : Nat) :
    (rest.take most).takeWhile isDigit = [] := by
  cases rest with
  | nil => simp
  | cons c cs =>
      cases most with
      | zero => rfl
      | succ most => simp [h c rfl]

theorem takeWhile_digits {digits : List Char} (h : ∀ c ∈ digits, isDigit c = true) :
    digits.takeWhile isDigit = digits := by
  have hnil : (digits ++ []).takeWhile isDigit = digits ++ [] := List.takeWhile_append_of_pos h
  rwa [List.append_nil] at hnil

theorem dropWhile_digits {digits : List Char} (h : ∀ c ∈ digits, isDigit c = true) :
    digits.dropWhile isDigit = [] := by
  have hnil : (digits ++ []).dropWhile isDigit = [] := List.dropWhile_append_of_pos h
  rwa [List.append_nil] at hnil

theorem trimStart_cons {c : Char} (h : isBlank c = false) (rest : List Char) :
    trimStart (c :: rest) = c :: rest := by
  simp [trimStart, h]

theorem trimStart_digits {digits : List Char} (hdigits : ∀ c ∈ digits, isDigit c = true)
    (hne : digits ≠ []) (rest : List Char) : trimStart (digits ++ rest) = digits ++ rest := by
  cases digits with
  | nil => exact absurd rfl hne
  | cons c cs => exact trimStart_cons (isBlank_of_isDigit (hdigits c List.mem_cons_self)) _

end WaybillBoard.Text
