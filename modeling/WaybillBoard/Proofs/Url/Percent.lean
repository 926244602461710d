import WaybillBoard.Url.Segments

/-!
Percent-encoding, there and back. Where `%` is encoded as well, decoding gives back the octets of
every text, and a reserved character does not occur in what is written. So dots in it were dots
before.
-/

namespace WaybillBoard.Url

namespace Percent

theorem hexValue?_hexDigit : ∀ n < 16, hexValue? (hexDigit n) = some n := by
  decide

/-- A `%` with two digits. -/
theorem decode_octet (b : UInt8) (rest : List Char) : decode (octet b ++ rest) = b :: decode rest := by
  have hb : b.toNat < 256 := b.toNat_lt
  rw [octet, List.cons_append, List.cons_append, List.cons_append, List.nil_append, decode,
    hexValue?_hexDigit _ (by omega), hexValue?_hexDigit _ (by omega)]
  simp only [Nat.div_add_mod', Nat.toUInt8_eq, UInt8.ofNat_toNat]

theorem decode_octets (bs : List UInt8) (rest : List Char) :
    decode (bs.flatMap octet ++ rest) = bs ++ decode rest := by
  induction bs with
  | nil => rfl
  | cons b bs ih => rw [List.flatMap_cons, List.append_assoc, decode_octet, ih, List.cons_append]

theorem decode_cons {c : Char} (h : c ≠ '%') (rest : List Char) :
    decode (c :: rest) = String.utf8EncodeChar c ++ decode rest := by
  rw [decode]
  exact fun _ _ _ hc _ => h hc

theorem encodeChar_cases (reserved : Reserved) (c : Char) :
    encodeChar reserved c = (String.utf8EncodeChar c).flatMap octet ∨
      (encodeChar reserved c = [c] ∧ c ∉ reserved) := by
  unfold encodeChar
  split
  · exact .inl rfl
  · next h => exact .inr ⟨rfl, by simp_all⟩

section Reserved

variable {reserved : Reserved} (hpercent : '%' ∈ reserved)
include hpercent

theorem decode_encodeChar (c : Char) (rest : List Char) :
    decode (encodeChar reserved c ++ rest) = String.utf8EncodeChar c ++ decode rest := by
  rcases encodeChar_cases reserved c with h | ⟨h, hc⟩
  · rw [h, decode_octets]
  · rw [h, List.singleton_append, decode_cons]
    rintro rfl
    exact hc hpercent

theorem decode_encode (cs : List Char) : decode (encode reserved cs) = Text.Octets.encode cs := by
  induction cs with
  | nil => rfl
  | cons c cs ih =>
      rw [encode, List.flatMap_cons, decode_encodeChar hpercent, ← encode, ih]
      rfl

end Reserved

/-- A reserved character that does not belong to percent-encoding is not written. -/
theorem not_mem_encode {reserved : Reserved} {c : Char} (hc : c ∈ reserved) (hpercent : c ≠ '%')
    (hhex : hexValue? c = none) (cs : List Char) : c ∉ encode reserved cs := by
  intro hmem
  obtain ⟨d, -, hmem⟩ := List.mem_flatMap.mp hmem
  rcases encodeChar_cases reserved d with h | ⟨h, hd⟩
  · rw [h] at hmem
    obtain ⟨b, -, hmem⟩ := List.mem_flatMap.mp hmem
    have hb : b.toNat < 256 := b.toNat_lt
    rw [octet, List.mem_cons, List.mem_cons, List.mem_singleton] at hmem
    rcases hmem with rfl | rfl | rfl
    · exact hpercent rfl
    · rw [hexValue?_hexDigit _ (by omega)] at hhex
      cases hhex
    · rw [hexValue?_hexDigit _ (by omega)] at hhex
      cases hhex
  · rw [h, List.mem_singleton] at hmem
    exact hd (hmem ▸ hc)

end Percent

/-- What is taken for dots stands for dots. -/
theorem decode_of_dots? {segment : List Char} {count : Nat} (h : dots? segment = some count) :
    Percent.decode segment = Text.Octets.encode (List.replicate count '.') := by
  induction segment using dots?.induct generalizing count with
  | case1 =>
      cases h
      rfl
  | case2 cs ih =>
      obtain ⟨n, hn, rfl⟩ := Option.map_eq_some_iff.mp h
      rw [Percent.decode_cons (by decide), ih hn]
      rfl
  | case3 e cs he ih =>
      rw [dots?, if_pos he] at h
      obtain ⟨n, hn, rfl⟩ := Option.map_eq_some_iff.mp h
      rcases he with rfl | rfl
      · exact congrArg _ (ih hn)
      · exact congrArg _ (ih hn)
  | case4 e cs he =>
      rw [dots?, if_neg he] at h
      cases h
  | case5 segment hnil hdot hcode =>
      rw [dots?] at h
      · cases h
      · exact hnil
      · exact hdot
      · exact hcode

/-- Only dots are taken for dots. -/
theorem eq_dots_of_dots?_encode {reserved : Percent.Reserved} (hpercent : '%' ∈ reserved)
    {cs : List Char} {count : Nat} (h : dots? (Percent.encode reserved cs) = some count) :
    cs = List.replicate count '.' := by
  have hdecode := decode_of_dots? h
  rw [Percent.decode_encode hpercent] at hdecode
  have htext := congrArg Text.Octets.decode hdecode
  rwa [Text.Octets.decode_encode, Text.Octets.decode_encode, Option.some_inj] at htext

end WaybillBoard.Url
