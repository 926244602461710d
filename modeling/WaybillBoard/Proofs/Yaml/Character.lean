import WaybillBoard.Yaml.Style

/-!
The characters of a text that is written: what their kinds have to do with each other, and where a
line begins.
-/

namespace WaybillBoard.Yaml

/-- A text in which no such pair stands, by its first character. -/
theorem hasPair_cons_eq_false {p q : Char → Bool} {c : Char} {cs : List Char} :
    Style.hasPair p q (c :: cs) = false ↔
      (p c = true → ∀ d ∈ cs.head?, q d = false) ∧ Style.hasPair p q cs = false := by
  cases cs with
  | nil => simp [Style.hasPair]
  | cons d cs => cases h : p c <;> simp [Style.hasPair, h]

theorem needsEscapes_cons_eq_false {c : Char} {cs : List Char} :
    Style.needsEscapes (c :: cs) = false ↔
      DoubleQuoted.isPrintable c = true ∧ (c = ' ' → ∀ d ∈ cs.head?, isBreak d = false) ∧
        Style.needsEscapes cs = false := by
  simp only [Style.needsEscapes, List.any_cons, Bool.or_eq_false_iff, hasPair_cons_eq_false,
    decide_eq_true_eq, Bool.not_eq_false', and_assoc, and_left_comm]

theorem ne_tab_of_isPrintable {c : Char} (h : DoubleQuoted.isPrintable c = true) : c ≠ '\t' := by
  rintro rfl
  revert h
  decide

theorem isGap_eq_of_isPrintable {c : Char} (h : DoubleQuoted.isPrintable c = true) :
    isGap c = (decide (c = ' ') || isBreak c) := by
  simp [isGap, isBlank, ne_tab_of_isPrintable h]

theorem not_atDocumentMark {c : Char} (hhyphen : c ≠ '-') (hdot : c ≠ '.') (cs : List Char) :
    atDocumentMark (c :: cs) = false := by
  rcases cs with _ | ⟨a, _ | ⟨b, cs⟩⟩ <;>
    simp [atDocumentMark, atDocumentStart, atDocumentEnd, markEnds, hhyphen, hdot]

/-- Something of the document stands here, and neither a gap nor a comment; or it ends. -/
def BeginsLine (cs : List Char) : Prop := ∀ c ∈ cs.head?, isGap c = false ∧ c ≠ '#'

theorem beginsLine_nil : BeginsLine [] := by
  rintro c ⟨⟩

theorem beginsLine_cons {c : Char} {cs : List Char} :
    BeginsLine (c :: cs) ↔ isGap c = false ∧ c ≠ '#' := by
  simp [BeginsLine]

end WaybillBoard.Yaml
