import WaybillBoard.Json.Reader
import WaybillBoard.Json.Text
import WaybillBoard.Proofs.Text.Octets

/-!
Strings of JSON, there and back: the octets that a character is written with stand for that
character, whether it is escaped or not.
-/

namespace WaybillBoard.Json

open Text.Octets (utf8EncodeChar_of_lt IsText isText_singleton isText_of_ascii)

/-- An octet that stands for itself in a string. -/
structure IsPlain (b : UInt8) : Prop where
  ne_quote : b ≠ 0x22
  ne_backslash : b ≠ 0x5C
  not_control : ¬ b < 0x20

/-- How a character may be written: as it is, after a backslash, or by its number. -/
inductive Spells : Char → List UInt8 → Prop
  | plain {c : Char} (h : ∀ b ∈ String.utf8EncodeChar c, IsPlain b) :
      Spells c (String.utf8EncodeChar c)
  | letter {c : Char} {l : UInt8} (hletter : isEscapeLetter l = true)
      (hvalue : String.utf8EncodeChar c = [escaped l]) : Spells c [0x5C, l]
  | number {c : Char} (h : c.toNat < 0x20) :
      Spells c [0x5C, 0x75, 0x30, 0x30, hexDigit (c.toNat / 16), hexDigit (c.toNat % 16)]

theorem isPlain_iff {b : UInt8} :
    IsPlain b ↔ b.toNat ≠ 0x22 ∧ b.toNat ≠ 0x5C ∧ 0x20 ≤ b.toNat := by
  constructor
  · rintro ⟨hquote, hbackslash, hcontrol⟩
    rw [UInt8.lt_iff_toNat_lt] at hcontrol
    refine ⟨fun h => hquote (UInt8.toNat_inj.mp h), fun h => hbackslash (UInt8.toNat_inj.mp h), ?_⟩
    exact Nat.le_of_not_lt hcontrol
  · rintro ⟨hquote, hbackslash, hcontrol⟩
    refine ⟨?_, ?_, ?_⟩
    · rintro rfl
      exact hquote rfl
    · rintro rfl
      exact hbackslash rfl
    · rw [UInt8.lt_iff_toNat_lt]
      exact Nat.not_lt_of_le hcontrol

theorem isPlain_of_mem_utf8EncodeChar {c : Char} (hquote : c.toNat ≠ 0x22)
    (hbackslash : c.toNat ≠ 0x5C) (hcontrol : ¬ c.toNat < 0x20) {b : UInt8}
    (h : b ∈ String.utf8EncodeChar c) : IsPlain b := by
  have hvalue : c.val.toNat = c.toNat := rfl
  have hle : c.toNat ≤ 0x10FFFF := by
    have := c.valid
    simp [UInt32.isValidChar, Nat.isValidChar] at this
    omega
  rw [isPlain_iff]
  simp only [String.utf8EncodeChar, hvalue] at h
  split at h
  · obtain rfl := List.mem_singleton.mp h
    rw [UInt8.toNat_ofNat']
    omega
  · -- The octets of a longer form are all past those of ASCII.
    have hhigh : 0x80 ≤ b.toNat := by
      split at h
      · simp only [List.mem_cons, List.not_mem_nil, or_false] at h
        rcases h with rfl | rfl <;> rw [UInt8.toNat_ofNat'] <;> omega
      · split at h
        · simp only [List.mem_cons, List.not_mem_nil, or_false] at h
          rcases h with rfl | rfl | rfl <;> rw [UInt8.toNat_ofNat'] <;> omega
        · simp only [List.mem_cons, List.not_mem_nil, or_false] at h
          rcases h with rfl | rfl | rfl | rfl <;> rw [UInt8.toNat_ofNat'] <;> omega
    omega

theorem spells_escapeChar (c : Char) : Spells c (escapeChar c) := by
  unfold escapeChar
  split
  · next h =>
    rcases h with h | h
    · rw [h]
      exact .letter (by decide) (utf8EncodeChar_of_lt h (by decide))
    · rw [h]
      exact .letter (by decide) (utf8EncodeChar_of_lt h (by decide))
  · next hmarks =>
    split
    · next h => exact .letter (by decide) (utf8EncodeChar_of_lt h (by decide))
    · split
      · next h => exact .letter (by decide) (utf8EncodeChar_of_lt h (by decide))
      · split
        · next h => exact .letter (by decide) (utf8EncodeChar_of_lt h (by decide))
        · split
          · next h => exact .letter (by decide) (utf8EncodeChar_of_lt h (by decide))
          · split
            · next h => exact .letter (by decide) (utf8EncodeChar_of_lt h (by decide))
            · split
              · next h => exact .number h
              · next hcontrol =>
                rw [not_or] at hmarks
                exact .plain fun b =>
                  isPlain_of_mem_utf8EncodeChar hmarks.1 hmarks.2 hcontrol

theorem hexDigit_lt : ∀ n < 0x10, hexDigit n < 0x80 := by decide

theorem Spells.isText {c : Char} {bs : List UInt8} (h : Spells c bs) : IsText bs := by
  cases h with
  | plain h => exact ⟨[c], (List.flatMap_singleton ..).symm⟩
  | letter hletter _ =>
      have hlt : ∀ l : UInt8, isEscapeLetter l = true → l < 0x80 := by
        intro l hl
        simp only [isEscapeLetter, List.contains_iff_mem, List.mem_cons, List.not_mem_nil,
          or_false] at hl
        rcases hl with rfl | rfl | rfl | rfl | rfl | rfl | rfl | rfl <;> decide
      exact (isText_singleton (hlt _ hletter)).cons (by decide)
  | number h =>
      have hhigh := hexDigit_lt (c.toNat / 16) (by omega)
      have hlow := hexDigit_lt (c.toNat % 16) (by omega)
      exact isText_of_ascii (by simp [hhigh, hlow])

theorem isText_ofChars (cs : List Char) : IsText (Literal.ofChars cs) := by
  induction cs with
  | nil => exact ⟨[], rfl⟩
  | cons c cs ih => exact (spells_escapeChar c).isText.append ih

/-! ### The text of a literal -/

theorem Literal.octetsOnto_plain {b : UInt8} (h : b ≠ 0x5C) (before rest : List UInt8) :
    octetsOnto before (b :: rest) = octetsOnto (b :: before) rest := by
  rw [octetsOnto.eq_def]
  split
  · contradiction
  · next heq =>
    injection heq with hb
    exact absurd hb h
  · next heq =>
    injection heq with hb
    exact absurd hb h
  · next heq =>
    injection heq with hb hrest
    rw [hb, hrest]

theorem Literal.octetsOnto_letter {l : UInt8} (h : l ≠ 0x75) (before rest : List UInt8) :
    octetsOnto before (0x5C :: l :: rest) = octetsOnto (escaped l :: before) rest := by
  rw [octetsOnto.eq_def]
  split
  · contradiction
  · next heq =>
    injection heq with _ heq
    injection heq with hl
    exact absurd hl h
  · next heq =>
    injection heq with _ heq
    injection heq with hl hrest
    rw [hl, hrest]
  · next hletter heq =>
    injection heq with hb hrest
    exact (hletter l rest hb.symm hrest.symm).elim

theorem hexWord_hexDigit :
    ∀ n < 0x20, hexWord 0x30 0x30 (hexDigit (n / 16)) (hexDigit (n % 16)) = n := by decide

theorem Literal.octetsOnto_of_isPlain {bs : List UInt8} (h : ∀ b ∈ bs, IsPlain b)
    (before rest : List UInt8) :
    octetsOnto before (bs ++ rest) = octetsOnto (bs.reverse ++ before) rest := by
  induction bs generalizing before with
  | nil => rfl
  | cons b bs ih =>
      rw [List.cons_append, octetsOnto_plain (h b List.mem_cons_self).ne_backslash,
        ih fun d hd => h d (List.mem_cons_of_mem b hd)]
      simp only [List.reverse_cons, List.append_assoc, List.singleton_append]

theorem Literal.octetsOnto_of_spells {c : Char} {bs : List UInt8} (h : Spells c bs)
    (before rest : List UInt8) :
    octetsOnto before (bs ++ rest) =
      octetsOnto ((String.utf8EncodeChar c).reverse ++ before) rest := by
  cases h with
  | plain h => exact octetsOnto_of_isPlain h before rest
  | letter hletter hvalue =>
      rw [hvalue]
      refine octetsOnto_letter ?_ before rest
      rintro rfl
      contradiction
  | number h =>
      have hword := hexWord_hexDigit c.toNat h
      rw [octetsOnto.eq_def]
      simp only [List.cons_append, List.nil_append, hword, Char.ofNat_toNat]
      rw [if_neg (by omega), if_neg (by omega)]

theorem Literal.octetsOnto_ofChars (cs : List Char) (before : List UInt8) :
    octetsOnto before (ofChars cs) = some (before.reverse ++ Text.Octets.encode cs) := by
  induction cs generalizing before with
  | nil => simp [ofChars, Text.Octets.encode, octetsOnto]
  | cons c cs ih =>
      have hcons : ofChars (c :: cs) = escapeChar c ++ ofChars cs := rfl
      have hencode : Text.Octets.encode (c :: cs) =
        String.utf8EncodeChar c ++ Text.Octets.encode cs := rfl
      rw [hcons, octetsOnto_of_spells (spells_escapeChar c), ih, hencode]
      simp only [List.reverse_append, List.reverse_reverse, List.append_assoc]

/-- The literal of a text has that text. -/
@[simp] theorem Literal.chars?_ofChars (cs : List Char) : (ofChars cs).chars? = some cs := by
  rw [chars?, octetsOnto_ofChars, Option.bind_some, List.reverse_nil, List.nil_append,
    Text.Octets.decode_encode]

@[simp] theorem Literal.text?_ofChars (s : String) : (ofChars s.toList).text? = some s := by
  rw [text?, chars?_ofChars, Option.map_some, String.ofList_toList]

end WaybillBoard.Json
