import WaybillBoard.Proofs.Binary64.Literal
import WaybillBoard.Proofs.Yaml.Character

/-!
Plain scalars are read back as the texts that may be plain, and so are numbers and truth values.
-/

namespace WaybillBoard.Yaml

namespace Plain

/-- Where a line is over and the next one begins to the left of the scalar, reading stops. -/
theorem read_lineEnd {least : Int} {next : List Char} (hnext : BeginsLine next) {spaces : Nat}
    (hleast : (spaces : Int) < least) (column : Nat) :
    read false least .empty column ('\n' :: (List.replicate spaces ' ' ++ next)) =
      some ⟨[], true, next⟩ := by
  have hspaces (k column : Nat) (hcolumn : ((column + k : Nat) : Int) < least) :
      read false least (.breaks (some '\n') []) column (List.replicate k ' ' ++ next) =
        some ⟨[], true, next⟩ := by
    induction k generalizing column with
    | zero =>
        cases next with
        | nil => rfl
        | cons c cs =>
            obtain ⟨hgap, -⟩ := hnext c rfl
            obtain ⟨hblank, hbreak⟩ := Bool.or_eq_false_iff.mp hgap
            have hends : endsAt false least (.breaks (some '\n') []) column c cs = true := by
              simp only [Nat.add_zero] at hcolumn
              simp [endsAt, Gap.isBroken, hcolumn]
            rw [List.replicate_zero, List.nil_append, read, hbreak, hblank, hends]
            rfl
    | succ k ih =>
        rw [List.replicate_succ, List.cons_append, read]
        exact ih (column + 1) (by omega)
  rw [read, if_pos (by decide)]
  exact hspaces spaces 0 (by omega)

/-- The text has no gap at its end, no breaks, and nothing in it that would end it. -/
structure Continues (gap : Gap) (cs : List Char) : Prop where
  printable : ∀ c ∈ cs, DoubleQuoted.isPrintable c = true
  unbroken : ∀ c ∈ cs, isBreak c = false
  indicator : Style.hasLaterIndicator (!gap.isEmpty) cs = false
  last : cs.getLast? ≠ some ' '
  gap_unbroken : gap.isBroken = false
  gap_empty : cs = [] → gap = .empty

theorem gap_add_space {gap : Gap} (h : gap.isBroken = false) :
    gap.add ' ' = .blanks (gap.text ++ [' ']) := by
  cases gap with
  | empty | blanks => rfl
  | breaks => cases h

theorem Continues.next {gap : Gap} {c : Char} {cs : List Char} (h : Continues gap (c :: cs)) :
    Continues (if c = ' ' then gap.add ' ' else .empty) cs := by
  have hprintable := h.printable c List.mem_cons_self
  have hunbroken := h.unbroken c List.mem_cons_self
  have hlater : Style.hasLaterIndicator (isGap c) cs = false :=
    (Bool.or_eq_false_iff.mp h.indicator).2
  rw [isGap_eq_of_isPrintable hprintable, hunbroken, Bool.or_false] at hlater
  have hlast : cs.getLast? ≠ some ' ' := fun heq => by
    obtain ⟨d, ds, rfl⟩ := List.exists_cons_of_ne_nil (l := cs) (by rintro rfl; cases heq)
    exact h.last heq
  refine ⟨fun d hd => h.printable d (List.mem_cons_of_mem c hd),
    fun d hd => h.unbroken d (List.mem_cons_of_mem c hd), ?_, hlast, ?_, fun hnil => ?_⟩
  · by_cases hspace : c = ' '
    · rw [if_pos hspace, gap_add_space h.gap_unbroken]
      simpa [hspace, Gap.isEmpty] using hlater
    · simpa [hspace, Gap.isEmpty] using hlater
  · by_cases hspace : c = ' '
    · rw [if_pos hspace, gap_add_space h.gap_unbroken]
      rfl
    · rw [if_neg hspace]
      rfl
  · subst hnil
    exact if_neg fun hspace : c = ' ' => h.last (hspace ▸ rfl)

theorem gapFollows_append (cs : List Char) {rest : List Char} (h : gapFollows rest = true) :
    gapFollows (cs ++ rest) = gapFollows cs := by
  cases cs with
  | nil => exact h
  | cons c cs => rfl

theorem Continues.not_endsAt {gap : Gap} {c : Char} {cs : List Char} (h : Continues gap (c :: cs))
    {rest : List Char} (hrest : gapFollows rest = true) (least : Int) (column : Nat) :
    endsAt false least gap column c (cs ++ rest) = false := by
  have hindicator := h.indicator
  simp only [Style.hasLaterIndicator, Bool.or_eq_false_iff] at hindicator
  obtain ⟨⟨hcolon, hcomment⟩, -⟩ := hindicator
  rw [Bool.and_comm] at hcomment
  rw [endsAt, h.gap_unbroken, gapFollows_append cs hrest, hcolon, hcomment]
  rfl

theorem read_text {least : Int} {gap : Gap} {cs next : List Char} (h : Continues gap cs)
    (hnext : BeginsLine next) {spaces : Nat} (hleast : (spaces : Int) < least) (column : Nat) :
    read false least gap column (cs ++ '\n' :: (List.replicate spaces ' ' ++ next)) =
      some ⟨gap.text ++ cs, true, next⟩ := by
  induction cs generalizing gap column with
  | nil =>
      obtain rfl := h.gap_empty rfl
      exact read_lineEnd hnext hleast column
  | cons c cs ih =>
      have hunbroken := h.unbroken c List.mem_cons_self
      have hprintable := h.printable c List.mem_cons_self
      rw [List.cons_append, read, hunbroken, if_neg Bool.false_ne_true]
      by_cases hspace : c = ' '
      · subst hspace
        have hread := ih h.next
        rw [if_pos rfl, gap_add_space h.gap_unbroken] at hread
        rw [if_pos (by decide), h.gap_unbroken, Bool.false_and, Bool.false_and,
          if_neg Bool.false_ne_true, gap_add_space h.gap_unbroken, hread]
        simp [Gap.text]
      · have hblank : isBlank c = false := by
          simp [isBlank, hspace, ne_tab_of_isPrintable hprintable]
        have hread := ih h.next
        rw [if_neg hspace] at hread
        rw [hblank, if_neg Bool.false_ne_true, h.not_endsAt rfl, if_neg Bool.false_ne_true,
          Bool.false_and, Bool.false_and, if_neg Bool.false_ne_true, hread]
        rfl

/-- A text may be plain if nothing in it ends it and nothing else begins with it. -/
structure Plainly (c : Char) (cs : List Char) : Prop where
  continues : Continues .empty (c :: cs)
  not_gap : isGap c = false
  begins : if c = '-' ∨ c = '?' ∨ c = ':' then gapFollows cs = false else isIndicator c = false

theorem plainly_of_mayBePlain {cs : List Char} (h : Style.mayBePlain cs = true) :
    ∃ c ds, cs = c :: ds ∧ Plainly c ds := by
  simp only [Style.mayBePlain, Bool.not_eq_true', Bool.or_eq_false_iff, decide_eq_false_iff_not]
    at h
  obtain ⟨⟨⟨⟨⟨hempty, hescapes⟩, hbreaks⟩, hhead⟩, hlast⟩, hindicator⟩ := h
  obtain ⟨c, ds, rfl⟩ := List.exists_cons_of_ne_nil (List.isEmpty_eq_false_iff.mp hempty)
  simp only [Style.hasIndicator, Bool.or_eq_false_iff] at hindicator
  obtain ⟨⟨⟨hfirst, -⟩, -⟩, hlater⟩ := hindicator
  have hprintable : ∀ d ∈ c :: ds, DoubleQuoted.isPrintable d = true := by
    simpa [Style.needsEscapes] using (Bool.or_eq_false_iff.mp hescapes).1
  have hunbroken : ∀ d ∈ c :: ds, isBreak d = false := by simpa using hbreaks
  have hgap : isGap c = false := by
    rw [isGap_eq_of_isPrintable (hprintable c List.mem_cons_self),
      hunbroken c List.mem_cons_self]
    simpa using hhead
  have hbegins : if c = '-' ∨ c = '?' ∨ c = ':' then gapFollows ds = false
      else isIndicator c = false := by
    simp only [Bool.or_eq_true, decide_eq_true_eq, or_assoc] at hfirst
    split at hfirst
    · next hmark => rwa [if_pos hmark]
    · next hmark => rwa [if_neg hmark]
  have hcolon : (decide (c = ':') && gapFollows ds) = false := by
    by_cases hc : c = ':'
    · rw [if_pos (.inr (.inr hc))] at hbegins
      rw [hbegins, Bool.and_false]
    · simp [hc]
  refine ⟨c, ds, rfl, ⟨hprintable, hunbroken, ?_, hlast, rfl, nofun⟩, hgap, hbegins⟩
  rw [Style.hasLaterIndicator, hcolon, hlater]
  simp [Gap.isEmpty]

theorem scalar?_of_mayBePlain {cs : List Char} (h : Style.mayBePlain cs = true) {least : Int}
    {next : List Char} (hnext : BeginsLine next) {spaces : Nat} (hleast : (spaces : Int) < least) :
    scalar? false least (cs ++ '\n' :: (List.replicate spaces ' ' ++ next)) =
      some ⟨cs, true, next⟩ := by
  obtain ⟨c, ds, rfl, hplain⟩ := plainly_of_mayBePlain h
  exact read_text hplain.continues hnext hleast 0

/-! ### Numbers -/

def isNumeric (c : Char) : Bool := Text.isDigit c || ['.', 'e', '+', '-'].contains c

theorem of_isNumeric {c : Char} (h : isNumeric c = true) :
    DoubleQuoted.isPrintable c = true ∧ isGap c = false ∧ c ≠ ':' ∧ c ≠ '#' := by
  have hascii : c.toNat < 128 := by
    simp only [isNumeric, Bool.or_eq_true, List.contains_iff_mem, Text.isDigit_iff] at h
    rcases h with h | h
    · omega
    · simp only [List.mem_cons, List.not_mem_nil, or_false] at h
      rcases h with rfl | rfl | rfl | rfl <;> decide
  have hall : ∀ n < 128, isNumeric (Char.ofNat n) = true →
      DoubleQuoted.isPrintable (Char.ofNat n) = true ∧ isGap (Char.ofNat n) = false ∧
        Char.ofNat n ≠ ':' ∧ Char.ofNat n ≠ '#' := by decide
  have hc := hall c.toNat hascii
  rw [Char.ofNat_toNat] at hc
  exact hc h

theorem of_isDigit {c : Char} (h : Text.isDigit c = true) :
    (decide (c = '-') || decide (c = '?') || decide (c = ':')) = false ∧ isIndicator c = false := by
  have hall : ∀ n < 58, Text.isDigit (Char.ofNat n) = true →
      (decide (Char.ofNat n = '-') || decide (Char.ofNat n = '?') ||
        decide (Char.ofNat n = ':')) = false ∧ isIndicator (Char.ofNat n) = false := by decide
  have hc := hall c.toNat (by have := Text.isDigit_iff.mp h; omega)
  rw [Char.ofNat_toNat] at hc
  exact hc h

theorem isNumeric_of_isDigit {c : Char} (h : Text.isDigit c = true) : isNumeric c = true := by
  rw [isNumeric, h, Bool.true_or]

theorem hasLaterIndicator_numeric {cs : List Char} (h : ∀ c ∈ cs, isNumeric c = true)
    (behindGap : Bool) : Style.hasLaterIndicator behindGap cs = false := by
  induction cs generalizing behindGap with
  | nil => rfl
  | cons c cs ih =>
      obtain ⟨hc, hcs⟩ := List.forall_mem_cons.mp h
      obtain ⟨-, -, hcolon, hcomment⟩ := of_isNumeric hc
      simp [Style.hasLaterIndicator, hcolon, hcomment, ih hcs]

theorem needsEscapes_numeric {cs : List Char} (h : ∀ c ∈ cs, isNumeric c = true) :
    Style.needsEscapes cs = false := by
  induction cs with
  | nil => rfl
  | cons c cs ih =>
      obtain ⟨hc, hcs⟩ := List.forall_mem_cons.mp h
      obtain ⟨hprintable, hgap, -, -⟩ := of_isNumeric hc
      refine needsEscapes_cons_eq_false.mpr ⟨hprintable, fun hspace => ?_, ih hcs⟩
      subst hspace
      cases hgap

/-- A number may be plain. -/
theorem mayBePlain_numeric {c : Char} {cs : List Char} (h : ∀ d ∈ c :: cs, isNumeric d = true)
    (hfirst : (if c = '-' || c = '?' || c = ':' then gapFollows cs else isIndicator c) = false)
    (hstart : "---".toList.isPrefixOf (c :: cs) = false)
    (hend : "...".toList.isPrefixOf (c :: cs) = false) : Style.mayBePlain (c :: cs) = true := by
  have hspace : ' ' ∉ c :: cs := fun hmem => absurd (h _ hmem) (by decide)
  have hhead : (c :: cs).head? ≠ some ' ' := fun heq => hspace (List.mem_of_mem_head? heq)
  have hlast : (c :: cs).getLast? ≠ some ' ' := fun heq => hspace (List.mem_of_getLast? heq)
  have hbreaks : (c :: cs).any isBreak = false := by
    rw [List.any_eq_false]
    exact fun d hd => Bool.eq_false_iff.mp (Bool.or_eq_false_iff.mp (of_isNumeric (h d hd)).2.1).2
  have hindicator : Style.hasIndicator (c :: cs) = false := by
    rw [Style.hasIndicator, hfirst, hstart, hend,
      hasLaterIndicator_numeric (List.forall_mem_cons.mp h).2]
    rfl
  rw [Style.mayBePlain, needsEscapes_numeric h, hbreaks, hindicator, decide_eq_false hhead,
    decide_eq_false hlast]
  rfl

/-- The digits of a number may be plain, also behind a minus. -/
theorem mayBePlain_digits {c : Char} {cs : List Char} (hdigit : Text.isDigit c = true)
    (h : ∀ d ∈ cs, isNumeric d = true) :
    Style.mayBePlain (c :: cs) = true ∧ Style.mayBePlain ('-' :: c :: cs) = true := by
  have hne {d : Char} (hd : Text.isDigit d = false) : c ≠ d := by
    rintro rfl
    rw [hdigit] at hd
    cases hd
  have hall : ∀ d ∈ c :: cs, isNumeric d = true :=
    List.forall_mem_cons.mpr ⟨isNumeric_of_isDigit hdigit, h⟩
  have hgap := (of_isNumeric (isNumeric_of_isDigit hdigit)).2.1
  constructor
  · refine mayBePlain_numeric hall ?_ ?_ ?_
    · rw [(of_isDigit hdigit).1, if_neg Bool.false_ne_true, (of_isDigit hdigit).2]
    · simp [List.isPrefixOf, (hne (d := '-') (by decide)).symm]
    · simp [List.isPrefixOf, (hne (d := '.') (by decide)).symm]
  · refine mayBePlain_numeric (List.forall_mem_cons.mpr ⟨by decide, hall⟩) hgap ?_ ?_
    · simp [List.isPrefixOf, (hne (d := '-') (by decide)).symm]
    · simp [List.isPrefixOf]

theorem isNumeric_natDigits (n : Nat) : ∀ c ∈ Text.natDigits n, isNumeric c = true := fun _ hc =>
  isNumeric_of_isDigit (Text.isDigit_of_mem_natDigits hc)

theorem isNumeric_intDigits (n : Int) : ∀ c ∈ Binary64.intDigits n, isNumeric c = true := by
  unfold Binary64.intDigits
  split
  · exact List.forall_mem_cons.mpr ⟨by decide, isNumeric_natDigits _⟩
  · exact isNumeric_natDigits _

section Layouts

variable {digits : List Char} (hdigits : ∀ c ∈ digits, isNumeric c = true)
include hdigits

theorem isNumeric_positional (layout : Binary64.Layout) (place : Int) :
    ∀ c ∈ Binary64.positional layout digits place, isNumeric c = true := by
  have hzeros (k : Nat) : ∀ c ∈ List.replicate k '0', isNumeric c = true := fun c hc =>
    List.eq_of_mem_replicate hc ▸ rfl
  intro c hc
  simp only [Binary64.positional] at hc
  split at hc
  · simp only [List.mem_cons, List.mem_append] at hc
    rcases hc with rfl | rfl | hc | hc
    · rfl
    · rfl
    · exact hzeros _ c hc
    · exact hdigits c hc
  · split at hc
    · simp only [List.mem_append] at hc
      rcases hc with (hc | hc) | hc
      · exact hdigits c hc
      · exact hzeros _ c hc
      · split at hc
        · simp only [List.mem_cons, List.not_mem_nil, or_false] at hc
          rcases hc with rfl | rfl <;> rfl
        · cases hc
    · simp only [List.mem_append, List.mem_cons] at hc
      rcases hc with hc | rfl | hc
      · exact hdigits c (List.mem_of_mem_take hc)
      · rfl
      · exact hdigits c (List.mem_of_mem_drop hc)

theorem isNumeric_scientific (layout : Binary64.Layout) (place : Int) :
    ∀ c ∈ Binary64.scientific layout digits place, isNumeric c = true := by
  intro c hc
  simp only [Binary64.scientific, List.mem_append, List.mem_cons] at hc
  rcases hc with (hc | hc) | rfl | hc | hc
  · exact hdigits c (List.mem_of_mem_take hc)
  · split at hc
    · cases hc
    · rcases List.mem_cons.mp hc with rfl | hc
      · rfl
      · exact hdigits c (List.mem_of_mem_drop hc)
  · rfl
  · split at hc
    · obtain rfl := List.mem_singleton.mp hc
      rfl
    · cases hc
  · exact isNumeric_intDigits _ c hc

end Layouts

theorem isNumeric_unitsText (layout : Binary64.Layout) (units : Nat) :
    ∀ c ∈ Binary64.unitsText layout units, isNumeric c = true := by
  rcases Binary64.unitsText_eq layout units with heq | heq
  · rw [heq]
    exact isNumeric_positional (isNumeric_natDigits _) layout _
  · rw [heq]
    exact isNumeric_scientific (isNumeric_natDigits _) layout _

/-- The text of a value in a document may be plain. -/
theorem mayBePlain_textWith (layout : Binary64.Layout) (x : Binary64) :
    Style.mayBePlain (x.textWith layout ".nan".toList ".inf".toList) = true := by
  cases x with
  | nan => rfl
  | infinity negative => cases negative <;> rfl
  | finite negative units h =>
      obtain ⟨c, cs, hcs, hc⟩ := Binary64.unitsText_eq_cons layout units
      have hnumeric := isNumeric_unitsText layout units
      rw [hcs] at hnumeric
      obtain ⟨hplus, hminus⟩ := mayBePlain_digits hc (List.forall_mem_cons.mp hnumeric).2
      rw [Binary64.textWith, hcs]
      cases negative with
      | true => exact hminus
      | false => exact hplus

end Plain

namespace Scalar

/-- A text with a digit at a place is none of the words without one there. -/
theorem not_contains_of_digit {words : List String} {cs : List Char} {c : Char} (place : Nat)
    (hplace : (cs.drop place).head? = some c) (hc : Text.isDigit c = true)
    (h : words.all (fun word => !(word.toList.drop place).head?.any Text.isDigit) = true) :
    words.contains (String.ofList cs) = false := by
  rw [List.contains_eq_mem, decide_eq_false_iff_not]
  intro hmem
  have hother := List.all_eq_true.mp h _ hmem
  rw [String.toList_ofList, hplace, Option.any_some, hc] at hother
  cases hother

/-- What is neither signed with a plus nor a word is read as a literal. -/
theorem number?_of_ofLiteral {cs : List Char} {x : Binary64} (hplus : cs.head? ≠ some '+')
    (hwords : ∀ words ∈ [[".inf", ".Inf", ".INF"], ["-.inf", "-.Inf", "-.INF"],
      [".nan", ".NaN", ".NAN"]], words.contains (String.ofList cs) = false)
    (hread : Binary64.ofLiteral cs = .ok x) (hfinite : x.isFinite = true) :
    number? cs = some x := by
  rw [number?]
  · simp only [decide_eq_false hplus, Bool.false_and, Bool.false_eq_true, if_false,
      hwords [".inf", ".Inf", ".INF"] (by simp), hwords ["-.inf", "-.Inf", "-.INF"] (by simp),
      hwords [".nan", ".NaN", ".NAN"] (by simp), hread, hfinite, if_true]
  · rintro r rfl
    exact hplus rfl

/-- A value is read from the text that it has in a document. -/
theorem number?_textWith (layout : Binary64.Layout) (x : Binary64) :
    number? (x.textWith layout ".nan".toList ".inf".toList) = some x := by
  cases x with
  | nan => rfl
  | infinity negative => cases negative <;> rfl
  | finite negative units h =>
      obtain ⟨c, cs, hcs, hc⟩ := Binary64.unitsText_eq_cons layout units
      have hread := Binary64.ofLiteral_textWith layout ".nan".toList ".inf".toList negative h
      rw [Binary64.textWith, hcs] at hread ⊢
      cases negative with
      | true =>
          refine number?_of_ofLiteral (by simp) (fun words hwords => ?_) hread rfl
          refine not_contains_of_digit 1 rfl hc ?_
          revert words
          decide
      | false =>
          have hplus : c ≠ '+' := by
            rintro rfl
            cases hc
          refine number?_of_ofLiteral (by simpa using hplus) (fun words hwords => ?_) hread rfl
          refine not_contains_of_digit 0 rfl hc ?_
          revert words
          decide

end Scalar

end WaybillBoard.Yaml
