import Mathlib.Data.List.TakeWhile
import WaybillBoard.Proofs.Text.Digits

/-!
Trimming takes blank characters from both ends and nothing else, and what is dropped from an end
stood there.
-/

namespace WaybillBoard.Text

def AllBlank (cs : List Char) : Prop := ∀ c ∈ cs, isBlank c = true

theorem trimStart_between {before : List Char} (h : AllBlank before) (rest : List Char) :
    trimStart (before ++ rest) = trimStart rest := List.dropWhile_append_of_pos h

theorem trimEnd_eq (cs : List Char) : trimEnd cs = (trimStart cs.reverse).reverse := rfl

theorem exists_trimStart (cs : List Char) :
    ∃ before, AllBlank before ∧ before ++ trimStart cs = cs :=
  ⟨cs.takeWhile isBlank, fun _ hc => List.mem_takeWhile_imp hc, List.takeWhile_append_dropWhile⟩

theorem exists_trim (cs : List Char) :
    ∃ before after, AllBlank before ∧ AllBlank after ∧ cs = before ++ trim cs ++ after := by
  obtain ⟨before, hbefore, hstart⟩ := exists_trimStart cs
  obtain ⟨after, hafter, hend⟩ := exists_trimStart (trimStart cs).reverse
  refine ⟨before, after.reverse, hbefore, fun c hc => hafter c (List.mem_reverse.mp hc), ?_⟩
  have hrest : trim cs ++ after.reverse = trimStart cs := by
    rw [trim, trimEnd_eq, ← List.reverse_append, hend, List.reverse_reverse]
  rw [List.append_assoc, hrest, hstart]

/-- A text that begins and ends with no blank is all that trimming leaves. -/
theorem trim_between {before text after : List Char} (hbefore : AllBlank before)
    (hafter : AllBlank after) (hne : text ≠ []) (hhead : ∀ c ∈ text.head?, isBlank c = false)
    (hlast : ∀ c ∈ text.getLast?, isBlank c = false) : trim (before ++ text ++ after) = text := by
  have hkept {cs : List Char} (hcs : cs ≠ []) (h : ∀ c ∈ cs.head?, isBlank c = false)
      (rest : List Char) : trimStart (cs ++ rest) = cs ++ rest := by
    cases cs with
    | nil => exact absurd rfl hcs
    | cons c cs => exact trimStart_cons (h c rfl) _
  have hreverse : trimStart text.reverse = text.reverse := by
    have h := hkept (mt List.reverse_eq_nil_iff.mp hne) (by simpa using hlast) []
    rwa [List.append_nil] at h
  rw [List.append_assoc, trim, trimStart_between hbefore, hkept hne hhead, trimEnd_eq,
    List.reverse_append, trimStart_between fun c hc => hafter c (List.mem_reverse.mp hc), hreverse,
    List.reverse_reverse]

theorem dropStart?_eq_some_iff {part cs rest : List Char} :
    dropStart? part cs = some rest ↔ cs = part ++ rest := by
  induction part generalizing cs with
  | nil => simp [dropStart?]
  | cons p part ih =>
      cases cs with
      | nil => simp [dropStart?]
      | cons c cs =>
          by_cases h : p = c
          · subst h
            simp [dropStart?, ih]
          · simp [dropStart?, h, Ne.symm h]

theorem dropEnd?_eq_some_iff {part cs front : List Char} :
    dropEnd? part cs = some front ↔ cs = front ++ part := by
  rw [dropEnd?, Option.map_eq_some_iff]
  constructor
  · rintro ⟨rest, hrest, rfl⟩
    have hcs := List.reverse_eq_iff.mp (dropStart?_eq_some_iff.mp hrest)
    rwa [List.reverse_append, List.reverse_reverse] at hcs
  · rintro rfl
    exact ⟨front.reverse, dropStart?_eq_some_iff.mpr List.reverse_append, front.reverse_reverse⟩

end WaybillBoard.Text
