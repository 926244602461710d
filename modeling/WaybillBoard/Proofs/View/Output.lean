import Mathlib.Logic.Basic
import WaybillBoard.View.Outcome

/-!
The lines of an output. Joined they are the output again, whatever it holds, and the output has
warnings exactly when one of its lines is a warning.
-/

namespace WaybillBoard

namespace Text

theorem splitOn_eq (separator : Char) (cs : List Char) :
    splitOn separator cs = cs.splitOn separator := by
  induction cs with
  | nil => rfl
  | cons c cs ih =>
      have hne : splitOn separator cs ≠ [] := ih ▸ List.splitOn_ne_nil separator cs
      rw [List.splitOn_cons_eq_if_modifyHead, ← ih, splitOn]
      obtain ⟨piece, pieces, hpieces⟩ := List.exists_cons_of_ne_nil hne
      simp only [hpieces, beq_iff_eq, List.modifyHead_cons]

theorem not_mem_of_mem_splitOn {separator : Char} {cs piece : List Char}
    (h : piece ∈ splitOn separator cs) : separator ∉ piece := by
  induction cs generalizing piece with
  | nil =>
      obtain rfl := List.mem_singleton.mp h
      exact List.not_mem_nil
  | cons c cs ih =>
      rw [splitOn] at h
      split at h
      · rcases List.mem_cons.mp h with rfl | h
        · exact List.not_mem_nil
        · exact ih h
      · next hc =>
          split at h
          · obtain rfl := List.mem_singleton.mp h
            exact fun hmem => hc (List.mem_singleton.mp hmem).symm
          · next first pieces hpieces =>
              rw [hpieces] at ih
              rcases List.mem_cons.mp h with rfl | h
              · exact List.not_mem_cons_of_ne_of_not_mem (Ne.symm hc) (ih List.mem_cons_self)
              · exact ih (List.mem_cons_of_mem first h)

end Text

namespace Output

theorem map_snd_classified (output : String) :
    (classified output).map (fun line => line.2.toList) = lines output := by
  rw [classified, List.map_map]
  exact (List.map_congr_left fun _ _ => String.toList_ofList).trans (List.map_id _)

/-- Joined with newlines, the lines are the output. -/
theorem intercalate_classified (output : String) :
    "\n".intercalate ((classified output).map Prod.snd) = output := by
  rw [← String.toList_inj, String.toList_intercalate, List.map_map]
  have hlines := map_snd_classified output
  rw [lines, Text.splitOn_eq] at hlines
  exact (congrArg _ hlines).trans (List.intercalate_splitOn '\n')

theorem classify_eq_warning_iff (line : List Char) :
    classify line = .warning ↔ isWarning (Text.trim line) = true := by
  simp only [classify]
  split
  · next h => exact iff_of_true rfl h
  · next h =>
      refine iff_of_false ?_ h
      split
      · exact nofun
      · split
        · exact nofun
        · split <;> exact nofun

theorem hasWarnings_iff (output : String) :
    hasWarnings output = true ↔ ∃ line ∈ classified output, line.1 = .warning := by
  simp only [hasWarnings, classified, List.any_eq_true, List.mem_map, exists_exists_and_eq_and,
    classify_eq_warning_iff]

end Output

theorem Outcome.of_eq_warning_iff {w : Waybill} {run : Run} (h : w.lastRun = some run)
    (hsuccess : run.success = true) :
    Outcome.of w = .warning ↔ Output.hasWarnings run.output = true := by
  simp [Outcome.of, h, hsuccess]

end WaybillBoard
