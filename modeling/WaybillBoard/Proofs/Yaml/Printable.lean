import WaybillBoard.Proofs.Yaml.Value

/-!
What is written of a text, in any style, consists of characters that stand for themselves. Such a
document is lexed as it stands.
-/

namespace WaybillBoard.Yaml

open DoubleQuoted (isPrintable)

/-- Every character stands for itself. -/
def Printable (cs : List Char) : Prop := ∀ c ∈ cs, isPrintable c = true

theorem printable_nil : Printable [] := List.forall_mem_nil _

theorem printable_append {cs ds : List Char} :
    Printable (cs ++ ds) ↔ Printable cs ∧ Printable ds := List.forall_mem_append

theorem printable_cons {c : Char} {cs : List Char} :
    Printable (c :: cs) ↔ isPrintable c = true ∧ Printable cs := List.forall_mem_cons

theorem printable_of_needsEscapes {cs : List Char} (h : Style.needsEscapes cs = false) :
    Printable cs := by
  simpa [Printable] using (Bool.or_eq_false_iff.mp h).1

theorem printable_replicate (n : Nat) {c : Char} (h : isPrintable c = true) :
    Printable (List.replicate n c) := fun d hd => by
  rw [List.eq_of_mem_replicate hd]
  exact h

/-! ### Styles -/

theorem SingleQuoted.printable_encode (broken : Bool) {cs : List Char} (h : Printable cs) :
    Printable (encode broken cs) := by
  induction cs generalizing broken with
  | nil =>
      cases broken
      · exact printable_nil
      · exact printable_replicate 2 rfl
  | cons c cs ih =>
      obtain ⟨hc, hcs⟩ := printable_cons.mp h
      rw [encode]
      split
      · exact printable_cons.mpr ⟨hc, ih true hcs⟩
      · refine printable_append.mpr ⟨printable_append.mpr ⟨?_, ?_⟩, ih false hcs⟩
        · split
          · exact printable_replicate 2 rfl
          · exact printable_nil
        · split
          · exact printable_replicate 2 rfl
          · exact List.forall_mem_singleton.mpr hc

theorem BlockText.printable_encode (fresh : Bool) {cs : List Char} (h : Printable cs) :
    Printable (encode fresh cs) := by
  induction cs generalizing fresh with
  | nil => exact printable_nil
  | cons c cs ih =>
      obtain ⟨hc, hcs⟩ := printable_cons.mp h
      rw [encode]
      split
      · exact printable_cons.mpr ⟨hc, ih true hcs⟩
      · refine printable_append.mpr ⟨?_, printable_cons.mpr ⟨hc, ih false hcs⟩⟩
        split
        · exact printable_replicate 2 rfl
        · exact printable_nil

theorem BlockText.printable_write {cs : List Char} (h : Printable cs) : Printable (write cs) := by
  have hmark : Printable (incrementMark cs) := by
    cases cs with
    | nil => exact printable_nil
    | cons c cs =>
        rw [incrementMark]
        split
        · exact printable_replicate 1 rfl
        · exact printable_nil
  have hchomping : Printable (chompingOf cs).mark := by
    cases chompingOf cs with
    | clip => exact printable_nil
    | strip | keep => exact printable_replicate 1 rfl
  have hclosing : Printable (closing cs) := by
    rw [closing]
    split
    · split
      · exact printable_nil
      · exact printable_replicate 1 rfl
    · exact printable_nil
  rw [write_eq]
  exact printable_cons.mpr ⟨rfl, printable_append.mpr ⟨printable_append.mpr ⟨hmark, hchomping⟩,
    printable_cons.mpr ⟨rfl, printable_append.mpr ⟨printable_encode true h, hclosing⟩⟩⟩⟩

namespace DoubleQuoted

theorem isPrintable_digitChar : ∀ d < 16, isPrintable d.digitChar.toUpper = true := by decide

theorem printable_toDigits (n : Nat) : Printable ((Nat.toDigits 16 n).map Char.toUpper) := by
  induction n using Nat.strongRecOn with
  | ind n ih =>
      by_cases hlt : n < 16
      · rw [Nat.toDigits_of_lt_base hlt]
        exact List.forall_mem_singleton.mpr (isPrintable_digitChar n hlt)
      · have happend := Nat.toDigits_append_toDigits (b := 16) (n := n / 16) (d := n % 16)
          (by decide) (by omega) (by omega)
        have hlast := Nat.toDigits_of_lt_base (Nat.mod_lt n (show 0 < 16 by decide))
        rw [Nat.div_add_mod, hlast] at happend
        rw [← happend, List.map_append]
        exact printable_append.mpr ⟨ih _ (by omega),
          List.forall_mem_singleton.mpr (isPrintable_digitChar _ (by omega))⟩

theorem printable_hexDigits (width n : Nat) : Printable (hexDigits width n) :=
  printable_append.mpr ⟨printable_replicate _ rfl, printable_toDigits n⟩

theorem isPrintable_letter : ∀ entry ∈ letters, isPrintable entry.1 = true := by decide

theorem printable_encodeChar (c : Char) : Printable (encodeChar c) := by
  unfold encodeChar
  split
  · next hplain =>
      simp only [Bool.and_eq_true] at hplain
      exact List.forall_mem_singleton.mpr hplain.1.1.1
  · split
    · next letter x heq =>
        exact printable_cons.mpr ⟨rfl, List.forall_mem_singleton.mpr
          (isPrintable_letter _ (List.mem_of_find?_eq_some heq))⟩
    · refine printable_cons.mpr ⟨rfl, ?_⟩
      unfold numbered
      split
      · exact printable_cons.mpr ⟨rfl, printable_hexDigits _ _⟩
      · split
        · exact printable_cons.mpr ⟨rfl, printable_hexDigits _ _⟩
        · exact printable_cons.mpr ⟨rfl, printable_hexDigits _ _⟩

theorem printable_write (cs : List Char) : Printable (write cs) := by
  refine printable_cons.mpr ⟨rfl, printable_append.mpr ⟨fun c hc => ?_, printable_replicate 1 rfl⟩⟩
  obtain ⟨d, -, hd⟩ := List.mem_flatMap.mp hc
  exact printable_encodeChar d c hd

end DoubleQuoted

theorem printable_line (cs : List Char) : Printable (Style.line cs) := by
  have hend : Printable ['\n'] := printable_replicate 1 rfl
  have hfits := Style.fits_of cs
  rw [Style.line]
  cases hstyle : Style.of cs with
  | plain =>
      rw [hstyle] at hfits
      obtain ⟨c, ds, rfl, hplain⟩ := Plain.plainly_of_mayBePlain hfits.1
      exact printable_append.mpr ⟨hplain.continues.printable, hend⟩
  | singleQuoted =>
      rw [hstyle] at hfits
      obtain ⟨hescapes, -⟩ : Style.needsEscapes cs = false ∧ _ := by
        simpa [Style.mayBeSingleQuoted] using hfits.2
      have hencode := SingleQuoted.printable_encode false (printable_of_needsEscapes hescapes)
      exact printable_append.mpr ⟨printable_cons.mpr ⟨rfl, printable_append.mpr
        ⟨hencode, printable_replicate 1 rfl⟩⟩, hend⟩
  | doubleQuoted => exact printable_append.mpr ⟨DoubleQuoted.printable_write cs, hend⟩
  | literal =>
      rw [hstyle] at hfits
      obtain ⟨hescapes, -⟩ : Style.needsEscapes cs = false ∧ _ := by
        simpa [Style.mayBeLiteral] using hfits.2
      exact BlockText.printable_write (printable_of_needsEscapes hescapes)
  | folded =>
      rw [hstyle] at hfits
      exact hfits.elim

/-! ### Documents -/

theorem isAllowed_of_isPrintable {c : Char} (h : isPrintable c = true) : isAllowed c = true := by
  simp only [isPrintable, isAllowed, Bool.or_eq_true, Bool.and_eq_true, decide_eq_true_eq] at *
  tauto

theorem unifyBreaks_printable {cs : List Char} (h : Printable cs) : unifyBreaks cs = cs := by
  induction cs with
  | nil => rfl
  | cons c cs ih =>
      obtain ⟨hc, hcs⟩ := printable_cons.mp h
      have hreturn : c ≠ '\r' := by
        rintro rfl
        cases hc
      have hnext : c ≠ '\u0085' := by
        rintro rfl
        cases hc
      rw [unifyBreaks, ih hcs, if_neg (not_or.mpr ⟨hreturn, hnext⟩)]
      exact fun _ heq => absurd heq hreturn

/-- A document that begins with a name is lexed as it stands. -/
theorem all?_printable {cs : List Char} (h : Printable cs) :
    Token.all? cs = (Lexer.between true cs ⟨0, 0, 0⟩ [] []).run? := by
  have hallowed : cs.all isAllowed = true :=
    List.all_eq_true.mpr fun c hc => isAllowed_of_isPrintable (h c hc)
  rw [Token.all?, if_pos hallowed, unifyBreaks_printable h, Lexer.start]
  · rfl
  · rintro ds rfl
    cases (printable_cons.mp h).1

end WaybillBoard.Yaml
