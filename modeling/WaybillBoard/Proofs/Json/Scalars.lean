import WaybillBoard.Json.Number
import WaybillBoard.Proofs.Json.Grammar
import WaybillBoard.Proofs.Text.Digits

/-!
Values without parts, written without blanks: a string that was written for a text may stand between
quotes, and the digits of a whole number are those of a number.
-/

namespace WaybillBoard.Json

/-! ### Strings -/

theorem isLiteral_append_of_isPlain {bs : List UInt8} (h : ∀ b ∈ bs, IsPlain b) {rest : Literal}
    (hrest : IsLiteral rest) : IsLiteral (bs ++ rest) := by
  induction bs with
  | nil => exact hrest
  | cons b bs ih =>
      obtain ⟨hb, hbs⟩ := List.forall_mem_cons.mp h
      exact .plain hb (ih hbs)

theorem isHexDigit_hexDigit : ∀ n < 0x10, isHexDigit (hexDigit n) = true := by decide

theorem Spells.isLiteral_append {c : Char} {bs : List UInt8} (h : Spells c bs) {rest : Literal}
    (hrest : IsLiteral rest) : IsLiteral (bs ++ rest) := by
  cases h with
  | plain h => exact isLiteral_append_of_isPlain h hrest
  | letter hletter _ => exact .letter hletter hrest
  | number h =>
      have hhigh := isHexDigit_hexDigit (c.toNat / 16) (by omega)
      have hlow := isHexDigit_hexDigit (c.toNat % 16) (by omega)
      have hdigits : ∀ d ∈ [0x30, 0x30, hexDigit (c.toNat / 16), hexDigit (c.toNat % 16)],
          isHexDigit d = true := by
        simp only [List.forall_mem_cons]
        exact ⟨rfl, rfl, hhigh, hlow, List.forall_mem_nil _⟩
      exact .number rfl hdigits hrest

theorem isLiteral_ofChars (cs : List Char) : IsLiteral (Literal.ofChars cs) := by
  induction cs with
  | nil => exact .nil
  | cons c cs ih => exact (spells_escapeChar c).isLiteral_append ih

theorem areWritten_singleton {t : Token} {word : List UInt8} (h : t.IsWritten word) :
    AreWritten [t] word := by
  simpa using AreWritten.token h .nil

theorem hasText_chars (cs : List Char) : HasText (chars cs) (chars cs).render := by
  have hwritten := areWritten_singleton (.string (isLiteral_ofChars cs))
  rwa [HasText, chars, tokens]

/-! ### Whole numbers -/

theorem asciiOctets_toNat {c : Char} (h : Text.isDigit c = true) :
    c.toNat.toUInt8.toNat = c.toNat := by
  have hc := Text.isDigit_iff.mp h
  exact Nat.mod_eq_of_lt (by omega)

theorem isDigit_toUInt8 {c : Char} (h : Text.isDigit c = true) :
    isDigit c.toNat.toUInt8 = true := by
  have hc := Text.isDigit_iff.mp h
  simp only [isDigit, Bool.and_eq_true, decide_eq_true_eq, UInt8.le_iff_toNat_le,
    asciiOctets_toNat h]
  exact hc

theorem digitsThen_asciiOctets {digits : List Char} (h : ∀ c ∈ digits, Text.isDigit c = true)
    {tail : List UInt8 → Prop} (htail : tail []) : DigitsThen tail (asciiOctets digits) := by
  induction digits with
  | nil => exact .done htail
  | cons c digits ih =>
      obtain ⟨hc, hdigits⟩ := List.forall_mem_cons.mp h
      exact .digit (isDigit_toUInt8 hc) (ih hdigits)

theorem isMagnitude_natDigits (n : Nat) : IsMagnitude (asciiOctets (Text.natDigits n)) := by
  by_cases hn : n = 0
  · subst hn
    exact .inl ⟨[], rfl, .inl (.inl rfl)⟩
  · obtain ⟨c, cs, hcons, hc⟩ := Text.natDigits_eq_cons hn
    have hall : ∀ d ∈ c :: cs, Text.isDigit d = true := fun d hd =>
      Text.isDigit_of_mem_natDigits (hcons ▸ hd)
    obtain ⟨hdigit, hdigits⟩ := List.forall_mem_cons.mp hall
    have hzero : c.toNat.toUInt8 ≠ 0x30 := by
      intro h
      have hnat := congrArg UInt8.toNat h
      rw [asciiOctets_toNat hdigit] at hnat
      exact hc (Char.toNat_inj.mp hnat)
    rw [hcons]
    exact .inr ⟨_, _, rfl, isDigit_toUInt8 hdigit, hzero,
      digitsThen_asciiOctets hdigits (.inl (.inl rfl))⟩

theorem isNumber_intDigits (n : Int) : IsNumber (asciiOctets (Binary64.intDigits n)) := by
  unfold Binary64.intDigits
  split
  · exact .inr ⟨_, rfl, isMagnitude_natDigits _⟩
  · exact .inl (isMagnitude_natDigits _)

/-- The characters of a whole number are a sign and digits. -/
theorem toNat_lt_of_mem_intDigits {n : Int} {c : Char} (h : c ∈ Binary64.intDigits n) :
    c.toNat < 0x80 := by
  have hdigit : ∀ {m : Nat}, c ∈ Text.natDigits m → c.toNat < 0x80 := by
    intro m hc
    have := Text.isDigit_iff.mp (Text.isDigit_of_mem_natDigits hc)
    omega
  unfold Binary64.intDigits at h
  split at h
  · rcases List.mem_cons.mp h with rfl | h
    · decide
    · exact hdigit h
  · exact hdigit h

theorem chars_asciiOctets {cs : List Char} (h : ∀ c ∈ cs, c.toNat < 0x80) :
    (asciiOctets cs).map (fun b => Char.ofNat b.toNat) = cs := by
  rw [asciiOctets, List.map_map]
  refine (List.map_congr_left fun c hc => ?_).trans (List.map_id cs)
  have hoctet : c.toNat.toUInt8.toNat = c.toNat := Nat.mod_eq_of_lt (by have := h c hc; omega)
  simp only [Function.comp_apply, hoctet, Char.ofNat_toNat, id_eq]

theorem hasText_ofInt (n : Int) : HasText (ofInt n) (ofInt n).render := by
  have hwritten := areWritten_singleton (.number (isNumber_intDigits n))
  rw [chars_asciiOctets fun c => toNat_lt_of_mem_intDigits] at hwritten
  rwa [HasText, ofInt, tokens]

/-! ### Words -/

theorem hasText_null : HasText .null (render .null) := by
  rw [HasText, tokens]
  exact areWritten_singleton .null

theorem hasText_bool (b : Bool) : HasText (.bool b) (render (.bool b)) := by
  rw [HasText, tokens]
  cases b with
  | false => exact areWritten_singleton .bool_false
  | true => exact areWritten_singleton .bool_true

end WaybillBoard.Json
