import WaybillBoard.Text.Octets

/-!
Octets that spell a text: those of ASCII do, and so do the texts one after the other.
-/

namespace WaybillBoard.Text.Octets

theorem utf8EncodeChar_of_lt {c : Char} {n : Nat} (h : c.toNat = n) (hlt : n < 0x80) :
    String.utf8EncodeChar c = [n.toUInt8] := by
  subst h
  exact if_pos (Nat.le_of_lt_succ hlt)

/-- Do the octets spell a text? -/
def IsText (bs : List UInt8) : Prop := ∃ cs, bs = encode cs

theorem IsText.append {as bs : List UInt8} (ha : IsText as) (hb : IsText bs) :
    IsText (as ++ bs) := by
  obtain ⟨cs, rfl⟩ := ha
  obtain ⟨ds, rfl⟩ := hb
  exact ⟨cs ++ ds, List.flatMap_append.symm⟩

theorem isText_singleton {b : UInt8} (h : b < 0x80) : IsText [b] := by
  have hlt : b.toNat < 0x80 := UInt8.lt_iff_toNat_lt.mp h
  have hvalid : b.toNat.isValidChar := .inl (by omega)
  have hvalue : (Char.ofNat b.toNat).toNat = b.toNat := by
    rw [Char.ofNat, dif_pos hvalid]
    rfl
  have hchar := utf8EncodeChar_of_lt hvalue hlt
  refine ⟨[Char.ofNat b.toNat], ?_⟩
  rw [encode, List.flatMap_singleton, hchar]
  exact congrArg (fun d => [d]) UInt8.ofNat_toNat.symm

theorem IsText.cons {b : UInt8} (h : b < 0x80) {bs : List UInt8} (hbs : IsText bs) :
    IsText (b :: bs) := (isText_singleton h).append hbs

theorem isText_of_ascii {bs : List UInt8} (h : bs.all (· < 0x80) = true) : IsText bs := by
  induction bs with
  | nil => exact ⟨[], rfl⟩
  | cons b bs ih =>
      rw [List.all_cons, Bool.and_eq_true, decide_eq_true_eq] at h
      exact (ih h.2).cons h.1

end WaybillBoard.Text.Octets
