import Mathlib.Algebra.Group.Nat.Defs
import WaybillBoard.Proofs.Yaml.Character

/-!
Quoted scalars are read back as the texts that they were written from.
-/

namespace WaybillBoard.Yaml

namespace SingleQuoted

/-- Single quotes can hold the text: no break stands beside a space, and none is a line feed. -/
structure Holds (cs : List Char) : Prop where
  needsEscapes : Style.needsEscapes cs = false
  hasPair : Style.hasPair isBreak (· = ' ') cs = false
  line : '\n' ∉ cs

theorem Holds.tail {c : Char} {cs : List Char} (h : Holds (c :: cs)) : Holds cs :=
  ⟨(needsEscapes_cons_eq_false.mp h.needsEscapes).2.2, (hasPair_cons_eq_false.mp h.hasPair).2,
    fun hmem => h.line (List.mem_cons_of_mem c hmem)⟩

/-- The gap may stand before the text, and is not changed by what follows it. -/
def Joins (cs : List Char) : Gap → Prop
  | .empty => True
  | .blanks _ => ∀ c ∈ cs.head?, isBreak c = false
  | .breaks first _ => (∃ b, first = some b ∧ b ≠ '\n') ∧ ∀ c ∈ cs.head?, c ≠ ' '

theorem text_breaks {b : Char} (h : b ≠ '\n') (others : List Char) :
    (Gap.breaks (some b) others).text = b :: others := if_neg (by simpa using h)

/-- What the text has in a gap is added to it as it stands. -/
theorem text_add {gap : Gap} {c : Char} {cs : List Char} (hgap : isGap c = true)
    (h : Holds (c :: cs)) (hjoins : Joins (c :: cs) gap) :
    (gap.add c).text = gap.text ++ [c] ∧ Joins cs (gap.add c) := by
  obtain ⟨hprintable, hspace, -⟩ := needsEscapes_cons_eq_false.mp h.needsEscapes
  have hbreak := (hasPair_cons_eq_false.mp h.hasPair).1
  have hline : c ≠ '\n' := fun heq => h.line (heq ▸ List.mem_cons_self)
  rw [isGap_eq_of_isPrintable hprintable, Bool.or_eq_true, decide_eq_true_eq] at hgap
  have hends (hc : isBreak c = true) : ∀ d ∈ cs.head?, d ≠ ' ' := fun d hd =>
    of_decide_eq_false (hbreak hc d hd)
  cases gap with
  | empty =>
      rcases hgap with rfl | hc
      · exact ⟨rfl, hspace rfl⟩
      · rw [Gap.add, if_pos hc]
        exact ⟨text_breaks hline [], ⟨c, rfl, hline⟩, hends hc⟩
  | blanks held =>
      rcases hgap with rfl | hc
      · exact ⟨rfl, hspace rfl⟩
      · rw [hjoins c rfl] at hc
        cases hc
  | breaks first others =>
      obtain ⟨⟨b, rfl, hb⟩, hhead⟩ := hjoins
      rcases hgap with rfl | hc
      · exact absurd rfl (hhead _ rfl)
      · rw [Gap.add, if_pos hc, text_breaks hb, text_breaks hb]
        exact ⟨rfl, ⟨b, rfl, hb⟩, hends hc⟩

/-- A character that does not begin a doubled quote. -/
theorem read_cons (gap : Gap) (fresh : Bool) {c : Char} {cs : List Char}
    (h : c = '\x27' → cs.head? ≠ some '\x27') :
    read gap fresh (c :: cs) =
      if c = '\x27' then some (gap.text, cs)
      else if fresh && atDocumentMark (c :: cs) then none
      else if isGap c then read (gap.add c) (isBreak c) cs
      else (read .empty false cs).map (prepend (gap.text ++ [c])) := by
  rw [read]
  rintro cs' rfl rfl
  exact h rfl rfl

theorem read_gap (gap : Gap) {fresh : Bool} {c : Char} (cs : List Char) (hgap : isGap c = true) :
    read gap fresh (c :: cs) = read (gap.add c) (isBreak c) cs := by
  have hne {d : Char} (hd : isGap d = false) : c ≠ d := by
    rintro rfl
    rw [hd] at hgap
    cases hgap
  have hquote : c ≠ '\x27' := hne (by decide)
  rw [read_cons gap fresh fun heq => absurd heq hquote, if_neg hquote, if_pos hgap,
    not_atDocumentMark (hne (by decide)) (hne (by decide)), Bool.and_false,
    if_neg Bool.false_ne_true]

theorem read_char (gap : Gap) {c : Char} (cs : List Char) (hgap : isGap c = false) :
    read gap false ((if c = '\x27' then ['\x27', '\x27'] else [c]) ++ cs) =
      (read .empty false cs).map (prepend (gap.text ++ [c])) := by
  by_cases hquote : c = '\x27'
  · subst hquote
    rfl
  · rw [if_neg hquote, List.singleton_append, read_cons gap false fun heq => absurd heq hquote,
      if_neg hquote, Bool.false_and, if_neg Bool.false_ne_true, hgap, if_neg Bool.false_ne_true]

/-- Behind a break the line goes on under its key, which changes nothing. -/
theorem read_indent {gap : Gap} {fresh : Bool} (hfresh : fresh = true → gap.isBroken = true)
    (cs : List Char) :
    read gap fresh ((if gap.isBroken then [' ', ' '] else []) ++ cs) = read gap false cs := by
  cases hbroken : gap.isBroken with
  | false =>
      obtain rfl : fresh = false := by
        cases fresh with
        | false => rfl
        | true => exact absurd (hfresh rfl) (by simp [hbroken])
      rfl
  | true =>
      have hadd : gap.add ' ' = gap := by
        cases gap with
        | empty | blanks => cases hbroken
        | breaks first others => rfl
      change read gap fresh (' ' :: ' ' :: cs) = _
      rw [read_gap gap _ (by decide), hadd, read_gap gap _ (by decide), hadd]
      rfl

theorem encode_gap {gap : Gap} {c : Char} {cs : List Char} (hgap : isGap c = true)
    (h : Holds (c :: cs)) (hjoins : Joins (c :: cs) gap) :
    encode gap.isBroken (c :: cs) = c :: encode (gap.add c).isBroken cs ∧
      (isBreak c = true → (gap.add c).isBroken = true) := by
  rw [encode]
  cases hbreak : isBreak c with
  | true => cases gap <;> simp [Gap.add, hbreak, Gap.isBroken]
  | false =>
      have hprintable := (needsEscapes_cons_eq_false.mp h.needsEscapes).1
      obtain rfl : c = ' ' := by
        simpa [isGap_eq_of_isPrintable hprintable, hbreak] using hgap
      cases gap with
      | empty | blanks => exact ⟨rfl, nofun⟩
      | breaks first others => exact absurd rfl (hjoins.2 _ rfl)

/-- Reading goes on over the text and stops at the closing quote. -/
theorem read_encode (gap : Gap) {fresh : Bool} {cs rest : List Char} (h : Holds cs)
    (hrest : rest.head? ≠ some '\x27') (hjoins : Joins cs gap)
    (hfresh : fresh = true → gap.isBroken = true) :
    read gap fresh (encode gap.isBroken cs ++ '\x27' :: rest) = some (gap.text ++ cs, rest) := by
  induction cs generalizing gap fresh with
  | nil =>
      rw [encode, read_indent hfresh, read_cons gap false fun _ => hrest, if_pos rfl,
        List.append_nil]
  | cons c cs ih =>
      have hprintable := (needsEscapes_cons_eq_false.mp h.needsEscapes).1
      cases hgap : isGap c with
      | true =>
          obtain ⟨htext, hnext⟩ := text_add hgap h hjoins
          obtain ⟨hencode, hbroken⟩ := encode_gap hgap h hjoins
          rw [hencode, List.cons_append, read_gap gap _ hgap, ih _ h.tail hnext hbroken, htext,
            List.append_assoc, List.singleton_append]
      | false =>
          -- Behind a character the gap is empty, so the induction goes on without one.
          have hbreak : isBreak c = false := (Bool.or_eq_false_iff.mp hgap).2
          have hread : read .empty false (encode false cs ++ '\x27' :: rest) = some (cs, rest) :=
            ih .empty h.tail trivial (absurd · Bool.false_ne_true)
          rw [encode, hbreak, if_neg Bool.false_ne_true, List.append_assoc, List.append_assoc,
            read_indent hfresh, read_char gap _ hgap, hread]
          simp [prepend]

theorem scalar?_write {cs : List Char} (rest : List Char) (h : Holds cs)
    (hrest : rest.head? ≠ some '\x27') :
    scalar? (encode false cs ++ '\x27' :: rest) = some (cs, rest) :=
  read_encode .empty h hrest trivial (absurd · Bool.false_ne_true)

end SingleQuoted

namespace DoubleQuoted

/-! ### Numbers of characters -/

theorem hexValue?_concat (cs : List Char) (c : Char) :
    hexValue? (cs ++ [c]) = (hexValue? cs).bind fun n => (hexDigit? c).map (16 * n + ·) := by
  simp [hexValue?, List.foldlM_append]

theorem hexDigit?_digitChar : ∀ d < 16, hexDigit? d.digitChar.toUpper = some d := by decide

theorem hexValue?_toDigits (n : Nat) :
    hexValue? ((Nat.toDigits 16 n).map Char.toUpper) = some n := by
  induction n using Nat.strongRecOn with
  | ind n ih =>
      by_cases hlt : n < 16
      · rw [Nat.toDigits_of_lt_base hlt]
        simp [hexValue?, hexDigit?_digitChar n hlt]
      · have happend := Nat.toDigits_append_toDigits (b := 16) (n := n / 16) (d := n % 16)
          (by decide) (by omega) (by omega)
        have hlast := Nat.toDigits_of_lt_base (Nat.mod_lt n (show 0 < 16 by decide))
        rw [Nat.div_add_mod, hlast] at happend
        rw [← happend, List.map_append, List.map_singleton, hexValue?_concat, ih _ (by omega),
          Option.bind_some, hexDigit?_digitChar _ (by omega), Option.map_some, Nat.div_add_mod]

theorem hexValue?_zeros (k : Nat) (cs : List Char) :
    hexValue? (List.replicate k '0' ++ cs) = hexValue? cs := by
  induction k with
  | zero => rfl
  | succ k ih => exact ih

theorem length_hexDigits {width n : Nat} (hwidth : 0 < width) (h : n < 16 ^ width) :
    (hexDigits width n).length = width := by
  have hle := (Nat.length_toDigits_le_iff (b := 16) (by decide) hwidth).mpr h
  simp only [hexDigits, List.length_append, List.length_replicate, List.length_map]
  omega

theorem numbered?_hexDigits {width : Nat} {c : Char} (hwidth : 0 < width)
    (h : c.toNat < 16 ^ width) (rest : List Char) :
    numbered? width (hexDigits width c.toNat ++ rest) = some c := by
  have hlength := length_hexDigits hwidth h
  have hshort : ¬ (hexDigits width c.toNat ++ rest).length < width := by
    rw [List.length_append]
    omega
  have htake : (hexDigits width c.toNat ++ rest).take width = hexDigits width c.toNat :=
    List.take_left' hlength
  have hvalue : hexValue? (hexDigits width c.toNat) = some c.toNat := by
    rw [hexDigits, hexValue?_zeros, hexValue?_toDigits]
  rw [numbered?, if_neg hshort, htake, hvalue]
  have hvalid : c.toNat.isValidChar := c.valid
  have hchar := Char.ofNat_toNat c
  rw [Char.ofNat, dif_pos hvalid] at hchar
  exact (dif_pos hvalid).trans (congrArg some hchar)

/-! ### Characters -/

deriving instance DecidableEq for Escape

theorem ofLetter : ∀ entry ∈ letters,
    isBreak entry.1 = false ∧ Escape.of? entry.1 = some (.char entry.2) := by decide

theorem read_cons (gap : Gap) (c : Char) (cs : List Char) :
    read gap false (c :: cs) =
      if c = '\x22' then some (gap.text, cs)
      else if isGap c then read (gap.add c) (isBreak c) cs
      else if c ≠ '\\' then (read .empty false cs).map (prepend (gap.text ++ [c]))
      else match cs with
        | [] => none
        | e :: cs =>
          if isBreak e then (read (.breaks none []) true cs).map (prepend gap.text)
          else match Escape.of? e with
            | none => none
            | some (.char x) => (read .empty false cs).map (prepend (gap.text ++ [x]))
            | some (.code digits) =>
              match numbered? digits cs with
              | none => none
              | some x => (read .empty false (cs.drop digits)).map (prepend (gap.text ++ [x])) := by
  rw [read.eq_def]
  rfl

theorem read_letter (gap : Gap) {e x : Char} (cs : List Char) (hbreak : isBreak e = false)
    (he : Escape.of? e = some (.char x)) :
    read gap false ('\\' :: e :: cs) = (read .empty false cs).map (prepend (gap.text ++ [x])) := by
  rw [read_cons, if_neg (by decide), if_neg (by decide), if_neg (by decide)]
  simp only [hbreak, Bool.false_eq_true, if_false, he]

theorem read_code (gap : Gap) {e : Char} {digits : Nat} {c : Char} (cs : List Char)
    (hbreak : isBreak e = false) (he : Escape.of? e = some (.code digits)) (hpos : 0 < digits)
    (h : c.toNat < 16 ^ digits) :
    read gap false ('\\' :: e :: (hexDigits digits c.toNat ++ cs)) =
      (read .empty false cs).map (prepend (gap.text ++ [c])) := by
  rw [read_cons, if_neg (by decide), if_neg (by decide), if_neg (by decide)]
  simp only [hbreak, Bool.false_eq_true, if_false, he, numbered?_hexDigits hpos h,
    List.drop_left' (length_hexDigits hpos h)]

theorem isGap_of_isPrintable {c : Char} (hprintable : isPrintable c = true)
    (hbreak : isBreak c = false) (hspace : c ≠ ' ') : isGap c = false := by
  rw [isGap_eq_of_isPrintable hprintable, hbreak, Bool.or_false, decide_eq_false_iff_not]
  exact hspace

theorem read_numbered (gap : Gap) (c : Char) (cs : List Char) :
    read gap false ('\\' :: (numbered c ++ cs)) =
      (read .empty false cs).map (prepend (gap.text ++ [c])) := by
  unfold numbered
  split
  · next h => exact read_code gap cs (by decide) (by decide) (by decide) (by omega)
  · split
    · next h => exact read_code gap cs (by decide) (by decide) (by decide) (by omega)
    · have hlt : c.toNat < 16 ^ 8 := c.val.toNat_lt
      exact read_code gap cs (by decide) (by decide) (by decide) hlt

theorem read_encodeChar (gap : Gap) {c : Char} (hspace : c ≠ ' ') (cs : List Char) :
    read gap false (encodeChar c ++ cs) =
      (read .empty false cs).map (prepend (gap.text ++ [c])) := by
  unfold encodeChar
  split
  · next hplain =>
      simp only [Bool.and_eq_true, Bool.not_eq_true', decide_eq_true_eq] at hplain
      obtain ⟨⟨⟨hprintable, hbreak⟩, hquote⟩, hbackslash⟩ := hplain
      rw [List.singleton_append, read_cons, if_neg hquote,
        isGap_of_isPrintable hprintable hbreak hspace, if_neg Bool.false_ne_true, if_pos hbackslash]
  · split
    · next letter x heq =>
        obtain ⟨hbreak, hletter⟩ := ofLetter _ (List.mem_of_find?_eq_some heq)
        obtain rfl : x = c := by simpa using List.find?_some heq
        exact read_letter gap cs hbreak hletter
    · exact read_numbered gap c cs

/-- Reading goes on over the text and stops at the closing quote. -/
theorem read_encode (gap : Gap) (cs rest : List Char) (hgap : gap.isBroken = false) :
    read gap false (cs.flatMap encodeChar ++ '\x22' :: rest) = some (gap.text ++ cs, rest) := by
  induction cs generalizing gap with
  | nil => rw [List.flatMap_nil, List.nil_append, read_cons, if_pos rfl, List.append_nil]
  | cons c cs ih =>
      rw [List.flatMap_cons, List.append_assoc]
      by_cases hspace : c = ' '
      · subst hspace
        have hadd : (gap.add ' ').isBroken = false ∧ (gap.add ' ').text = gap.text ++ [' '] := by
          cases gap with
          | empty | blanks => exact ⟨rfl, rfl⟩
          | breaks => cases hgap
        have hencode : encodeChar ' ' = [' '] := by decide
        rw [hencode, List.singleton_append, read_cons, if_neg (by decide), if_pos (by decide)]
        refine (ih _ hadd.1).trans ?_
        rw [hadd.2, List.append_assoc, List.singleton_append]
      · have hread := ih .empty rfl
        rw [read_encodeChar gap hspace, hread]
        simp [prepend, Gap.text]

theorem scalar?_write (cs rest : List Char) :
    scalar? (cs.flatMap encodeChar ++ '\x22' :: rest) = some (cs, rest) :=
  read_encode .empty cs rest rfl

end DoubleQuoted

end WaybillBoard.Yaml
