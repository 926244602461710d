import WaybillBoard.Proofs.Dashboard.Operations
import WaybillBoard.Proofs.Session.Scene

/-!
What an operation on a session can do to its dashboard, its queue and its selection, said once for
every key, wheel and call. Invariants of runs are proved over these effects.
-/

namespace WaybillBoard.Session

open Dashboard (updateVisible moved refresh_eq navigate_eq)

/-- The selection is on a row whenever there is one. -/
def OnRow (s : Session) : Prop :=
  s.dashboard.visible ≠ [] → s.selected < s.dashboard.visible.length

/-- What can happen to a dashboard and to the ticket that is queued for it. -/
inductive Change (d : Dashboard) (queued : Option Ticket) : Dashboard → Option Ticket → Prop
  | nothing : Change d queued d queued
  | narrowed (query : String) (filter : OutcomeFilter) :
      Change d queued (updateVisible { d with query, filter }) queued
  | toggled (ns : String) : Change d queued (d.toggle ns) queued
  | tracked (generation : Nat) (task : TaskId) : Change d queued (d.track generation task) queued
  | asked : Change d queued d.refresh.1 (some d.refresh.2)
  | moved {route : Route} (h : ¬(route = d.route ∧ d.phase ≠ .idle)) :
      Change d queued (d.moved route).refresh.1 (some (d.moved route).refresh.2)
  | polled : Change d queued d.poll.1 queued
  | unmounted : Change d queued d.unmount none

structure Effect (s s' : Session) : Prop where
  change : Change s.dashboard s.queued s'.dashboard s'.queued
  onRow : s.OnRow → s'.OnRow

theorem onRow_of_first {s : Session} (h : s.selected = 0) : s.OnRow := by
  intro hvisible
  rw [h]
  exact List.length_pos_iff.mpr hvisible

theorem effect_self (s : Session) : Effect s s := ⟨.nothing, id⟩

theorem effect_selectNext (s : Session) (step : Nat) : Effect s (s.selectNext step) := by
  by_cases hcount : s.dashboard.visible.length = 0
  · simp only [selectNext, if_pos hcount]
    exact effect_self s
  · simp only [selectNext, if_neg hcount]
    refine ⟨.nothing, fun _ _ => ?_⟩
    change min (s.selected + step) (s.dashboard.visible.length - 1) < s.dashboard.visible.length
    omega

theorem effect_selectPrevious (s : Session) (step : Nat) : Effect s (s.selectPrevious step) :=
  ⟨.nothing, fun h hvisible => Nat.lt_of_le_of_lt (Nat.sub_le _ _) (h hvisible)⟩

theorem effect_selectLast (s : Session) :
    Effect s { s with selected := s.dashboard.visible.length - 1 } := by
  refine ⟨.nothing, fun _ hvisible => ?_⟩
  have hpos := List.length_pos_iff.mpr hvisible
  exact Nat.sub_lt hpos Nat.zero_lt_one

theorem effect_search (s : Session) (query : String) : Effect s (s.search query) :=
  ⟨.narrowed query s.dashboard.filter, fun _ => onRow_of_first rfl⟩

theorem effect_toggleSelected (s : Session) : Effect s s.toggleSelected := by
  unfold toggleSelected
  split
  · exact effect_self s
  · next w hw => exact ⟨.toggled w.namespaceName, id⟩

theorem effect_navigate (s : Session) (route : Route) (now : Nat) :
    Effect s (s.navigate route now) := by
  rw [navigate, navigate_eq]
  by_cases hstay : route = s.dashboard.route ∧ s.dashboard.phase ≠ .idle
  · rw [if_pos hstay]
    exact effect_self s
  · rw [if_neg hstay]
    exact ⟨.moved hstay, fun _ => onRow_of_first rfl⟩

theorem effect_openSelected (s : Session) (now : Nat) : Effect s (s.openSelected now) := by
  unfold openSelected
  split
  · exact effect_self s
  · next w hw => exact effect_navigate s _ now

theorem effect_pressInPrompt (s : Session) (key : Key) : Effect s (s.pressInPrompt key) := by
  cases key with
  | escape => exact ⟨.narrowed "" s.dashboard.filter, fun _ => onRow_of_first rfl⟩
  | backspace | char => exact effect_search s _
  | _ => exact ⟨.nothing, id⟩

theorem effect_escape (s : Session) (now : Nat) : Effect s (s.escape now).1 := by
  unfold escape
  split
  · exact ⟨.narrowed "" .all, fun _ => onRow_of_first rfl⟩
  · split
    · exact effect_navigate s .all now
    · exact effect_self s

theorem effect_cycleFilter (s : Session) : Effect s s.cycleFilter :=
  ⟨.narrowed s.dashboard.query s.dashboard.filter.next, fun _ => onRow_of_first rfl⟩

theorem effect_refresh (s : Session) (now : Nat) : Effect s (s.refresh now) := by
  refine ⟨.asked, fun h => ?_⟩
  have hvisible : (s.refresh now).dashboard.visible = s.dashboard.visible := by
    rw [refresh, refresh_eq]
    rfl
  rw [OnRow, hvisible]
  exact h

theorem effect_pressInList (s : Session) (key : Key) (now : Nat) :
    Effect s (s.pressInList key now).1 := by
  unfold pressInList
  split
  · exact effect_self s
  · exact effect_self s
  · exact effect_escape s now
  · exact effect_selectNext s 1
  · exact effect_selectNext s 1
  · exact effect_selectPrevious s 1
  · exact effect_selectPrevious s 1
  · exact effect_selectNext s _
  · exact effect_selectPrevious s _
  · exact ⟨.nothing, fun _ => onRow_of_first rfl⟩
  · exact ⟨.nothing, fun _ => onRow_of_first rfl⟩
  · exact effect_selectLast s
  · exact effect_selectLast s
  · split
    · exact effect_openSelected s now
    · exact effect_toggleSelected s
  · exact effect_toggleSelected s
  · exact effect_toggleSelected s
  · exact ⟨.nothing, id⟩
  · exact effect_cycleFilter s
  · exact ⟨(effect_refresh s now).change, (effect_refresh s now).onRow⟩
  · exact ⟨.nothing, id⟩
  · exact effect_self s

theorem effect_press (s : Session) (p : KeyPress) (now : Nat) : Effect s (s.press p now).1 := by
  unfold press
  split
  · exact effect_self s
  split
  · exact ⟨.nothing, id⟩
  split
  · exact effect_pressInPrompt s p.key
  split
  · exact ⟨.nothing, id⟩
  · -- What becomes of the message does not matter to the list.
    obtain ⟨message, heq⟩ : ∃ message,
        (if p.key = .char 'r' then s else { s with message := none }) = { s with message } := by
      split
      · exact ⟨s.message, rfl⟩
      · exact ⟨none, rfl⟩
    have h := effect_pressInList { s with message } p.key now
    simp only [heq]
    exact ⟨h.change, h.onRow⟩

theorem effect_tick (s : Session) (now : Nat) : Effect s (s.tick now) := by
  unfold tick
  split
  · exact effect_refresh s now
  · exact effect_self s

theorem effect_turnWheel (s : Session) (w : Wheel) : Effect s (s.turnWheel w) := by
  cases w with
  | up => exact effect_selectPrevious s 1
  | down => exact effect_selectNext s 1

theorem effect_unmount (s : Session) : Effect s s.unmount := by
  refine ⟨.unmounted, fun _ hvisible => absurd ?_ hvisible⟩
  rw [unmount, Dashboard.unmount_eq]
  rfl

theorem effect_track (s : Session) (generation : Nat) (task : TaskId) :
    Effect s { s with dashboard := s.dashboard.track generation task } := by
  obtain ⟨aborted, heq⟩ := Dashboard.track_eq s.dashboard generation task
  refine ⟨.tracked generation task, ?_⟩
  rw [heq]
  exact id

theorem visible_of_poll {d : Dashboard} (h : d.poll.2 = false) : d.poll.1.visible = d.visible := by
  cases harrived : d.arrived? with
  | none => rw [Dashboard.poll_of_none harrived]
  | some found =>
      rw [Dashboard.poll_of_some harrived, Dashboard.complete_eq] at h ⊢
      split at h
      · cases h
      · next hold =>
          rw [if_neg hold]
          rfl

theorem onRow_clampSelection (s : Session) : s.clampSelection.OnRow := by
  by_cases hcount : s.dashboard.visible.length = 0
  · simp only [clampSelection, if_pos hcount]
    exact onRow_of_first rfl
  · by_cases hpast : s.dashboard.visible.length ≤ s.selected
    · simp only [clampSelection, if_neg hcount, if_pos hpast]
      exact fun _ => Nat.sub_lt (Nat.pos_of_ne_zero hcount) Nat.zero_lt_one
    · simp only [clampSelection, if_neg hcount, if_neg hpast]
      exact fun _ => Nat.lt_of_not_le hpast

/-- The selection is all that is moved, and not from the first row. -/
theorem clampSelection_eq (s : Session) :
    ∃ selected offset, s.clampSelection = { s with selected, offset } ∧
      (s.selected = 0 → selected = 0) := by
  by_cases hcount : s.dashboard.visible.length = 0
  · exact ⟨0, 0, if_pos hcount, fun _ => rfl⟩
  · by_cases hpast : s.dashboard.visible.length ≤ s.selected
    · refine ⟨s.dashboard.visible.length - 1, s.offset, ?_, ?_⟩
      · rw [clampSelection, if_neg hcount, if_pos hpast]
      · intro hfirst
        omega
    · refine ⟨s.selected, s.offset, ?_, id⟩
      rw [clampSelection, if_neg hcount, if_neg hpast]

theorem clampSelection_same (s : Session) :
    s.clampSelection.dashboard = s.dashboard ∧ s.clampSelection.queued = s.queued := by
  obtain ⟨selected, offset, heq, -⟩ := s.clampSelection_eq
  rw [heq]
  exact ⟨rfl, rfl⟩

/-- A poll that changes nothing leaves the session, and one that changes something brings the
selection back to a row. Only a failure leaves a message. -/
theorem poll_eq (s : Session) :
    s.poll.1 = { s with dashboard := s.dashboard.poll.1 } ∧ s.dashboard.poll.2 = false ∨
      ∃ message, s.poll.1 =
          ({ s with dashboard := s.dashboard.poll.1, message } : Session).clampSelection ∧
        (s.dashboard.poll.1.phase = .ready → message = s.message) := by
  rcases hpoll : s.dashboard.poll with ⟨d, changed⟩
  cases changed with
  | false => exact .inl ⟨by simp [poll, hpoll], rfl⟩
  | true =>
      right
      cases hphase : d.phase with
      | failed e =>
          refine ⟨some ⟨"Refresh failed: " ++ e.message, true⟩, ?_, fun hready => by cases hready⟩
          simp [poll, hpoll, hphase, say]
      | _ =>
          refine ⟨s.message, ?_, fun _ => rfl⟩
          simp [poll, hpoll, hphase]

theorem effect_poll (s : Session) : Effect s s.poll.1 := by
  rcases poll_eq s with ⟨heq, hsame⟩ | ⟨message, heq, -⟩
  · rw [heq]
    refine ⟨.polled, fun h => ?_⟩
    rw [OnRow, visible_of_poll hsame]
    exact h
  · rw [heq]
    obtain ⟨hdashboard, hqueued⟩ :=
      clampSelection_same { s with dashboard := s.dashboard.poll.1, message }
    refine ⟨?_, fun _ => onRow_clampSelection _⟩
    rw [hdashboard, hqueued]
    exact .polled

end WaybillBoard.Session
