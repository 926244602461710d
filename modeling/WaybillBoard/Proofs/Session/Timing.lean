import WaybillBoard.Proofs.Session.Queue

/-!
When a session asks. Of a session only its timing decides whether a tick is due, and an event keeps
the timing, makes one request at its instant, empties the queue or ends the fetch.
-/

namespace WaybillBoard

namespace Dashboard

theorem poll_generation (d : Dashboard) : d.poll.1.generation = d.generation := by
  cases harrived : d.arrived? with
  | none => rw [poll_of_none harrived]
  | some found =>
      rw [poll_of_some harrived, complete_eq]
      split
      · exact settled_generation _ _
      · rfl

/-- A look that takes an outcome ends the loading, and any other leaves the phase. -/
theorem poll_phase (d : Dashboard) :
    if d.poll.2 then d.poll.1.phase ≠ .loading else d.poll.1.phase = d.phase := by
  cases harrived : d.arrived? with
  | none => simp [poll_of_none harrived]
  | some found =>
      rw [poll_of_some harrived, complete_eq]
      split
      · simp [settled_phase_ne_loading]
      · simp

end Dashboard

namespace Session

/-- The part of a session that decides when it asks for its route again. -/
structure Timing where
  interval : Option Time.Period
  lastRefresh : Nat
  generation : Nat
  phase : Phase
  queued : Option Ticket

def timing (s : Session) : Timing where
  interval := s.interval
  lastRefresh := s.lastRefresh
  generation := s.dashboard.generation
  phase := s.dashboard.phase
  queued := s.queued

/-- With a request made at an instant. -/
def Timing.asked (t : Timing) (now : Nat) (scope : Scope) : Timing :=
  { t with
    lastRefresh := now
    generation := t.generation + 1
    phase := .loading
    queued := some ⟨t.generation + 1, scope⟩ }

/-- What keys and calls do to the timing at an instant. -/
inductive Timing.Next (t : Timing) (now : Nat) : Timing → Prop
  | kept : Next t now t
  | asked (scope : Scope) : Next t now (t.asked now scope)

theorem timing_selectNext (s : Session) (step : Nat) : (s.selectNext step).timing = s.timing := by
  unfold selectNext
  dsimp only
  split <;> rfl

theorem timing_toggleSelected (s : Session) : s.toggleSelected.timing = s.timing := by
  unfold toggleSelected
  split <;> rfl

theorem timing_pressInPrompt (s : Session) (key : Key) :
    (s.pressInPrompt key).timing = s.timing := by
  cases key <;> rfl

theorem timing_refresh (s : Session) (now : Nat) :
    (s.refresh now).timing = s.timing.asked now s.dashboard.route.scope := by
  rw [refresh, Dashboard.refresh_eq]
  rfl

theorem next_refresh (s : Session) (now : Nat) : s.timing.Next now (s.refresh now).timing := by
  rw [timing_refresh]
  exact .asked _

theorem navigate_of_stay {s : Session} {route : Route}
    (hstay : route = s.dashboard.route ∧ s.dashboard.phase ≠ .idle) (now : Nat) :
    s.navigate route now = s := by
  rw [navigate, Dashboard.navigate_eq, if_pos hstay]

theorem timing_navigate {s : Session} {route : Route}
    (hleave : ¬ (route = s.dashboard.route ∧ s.dashboard.phase ≠ .idle)) (now : Nat) :
    (s.navigate route now).timing = s.timing.asked now route.scope := by
  rw [navigate, Dashboard.navigate_eq, if_neg hleave, Dashboard.refresh_eq]
  rfl

theorem next_navigate (s : Session) (route : Route) (now : Nat) :
    s.timing.Next now (s.navigate route now).timing := by
  by_cases hstay : route = s.dashboard.route ∧ s.dashboard.phase ≠ .idle
  · rw [navigate_of_stay hstay]
    exact .kept
  · rw [timing_navigate hstay]
    exact .asked route.scope

theorem next_openSelected (s : Session) (now : Nat) :
    s.timing.Next now (s.openSelected now).timing := by
  unfold openSelected
  split
  · exact .kept
  · next w hw => exact next_navigate s _ now

theorem next_escape (s : Session) (now : Nat) : s.timing.Next now (s.escape now).1.timing := by
  unfold escape
  split
  · exact .kept
  · split
    · exact next_navigate s .all now
    · exact .kept

theorem next_pressInList (s : Session) (key : Key) (now : Nat) :
    s.timing.Next now (s.pressInList key now).1.timing := by
  have hkept {s' : Session} (h : s'.timing = s.timing) : s.timing.Next now s'.timing := by
    rw [h]
    exact .kept
  unfold pressInList
  split
  · exact .kept
  · exact .kept
  · exact next_escape s now
  · exact hkept (timing_selectNext s 1)
  · exact hkept (timing_selectNext s 1)
  · exact .kept
  · exact .kept
  · exact hkept (timing_selectNext s _)
  · exact .kept
  · exact .kept
  · exact .kept
  · exact .kept
  · exact .kept
  · split
    · exact next_openSelected s now
    · exact hkept (timing_toggleSelected s)
  · exact hkept (timing_toggleSelected s)
  · exact hkept (timing_toggleSelected s)
  · exact .kept
  · exact .kept
  · exact next_refresh s now
  · exact .kept
  · exact .kept

theorem next_press (s : Session) (p : KeyPress) (now : Nat) :
    s.timing.Next now (s.press p now).1.timing := by
  unfold press
  split
  · exact .kept
  split
  · exact .kept
  split
  · rw [timing_pressInPrompt]
    exact .kept
  split
  · exact .kept
  · -- What becomes of the message does not matter to the timing.
    by_cases hkey : p.key = .char 'r'
    · simp only [if_pos hkey]
      exact next_pressInList s p.key now
    · simp only [if_neg hkey]
      exact next_pressInList { s with message := none } p.key now

theorem timing_poll (s : Session) :
    s.poll.1.timing = { s.timing with phase := s.dashboard.poll.1.phase } := by
  have hsame (message : Option Board.StatusMessage) :
      ({ s with dashboard := s.dashboard.poll.1, message } : Session).timing =
        { s.timing with phase := s.dashboard.poll.1.phase } := by
    simp only [timing, Dashboard.poll_generation]
  rcases poll_eq s with ⟨heq, -⟩ | ⟨message, heq, -⟩
  · rw [heq]
    exact hsame s.message
  · obtain ⟨selected, offset, hclamp, -⟩ :=
      clampSelection_eq { s with dashboard := s.dashboard.poll.1, message }
    rw [heq, hclamp]
    exact hsame message

theorem timing_used {s : Session} {ticket : Ticket} {d : Dashboard}
    (h : Dashboard.Used s.dashboard ticket d) :
    ({ s with dashboard := d } : Session).timing = s.timing := by
  obtain ⟨inFlight, rfl⟩ := h.eq
  rfl

/-- What a tick waits for. -/
structure Timing.Due (t : Timing) (now : Nat) : Prop where
  elapsed : ∃ i, t.interval = some i ∧ i.millis ≤ now - t.lastRefresh
  settled : t.phase ≠ .loading
  queued : t.queued = none

theorem isDue_iff (s : Session) (now : Nat) : s.isDue now ↔ s.timing.Due now := by
  have hphase : s.dashboard.phase.isLoading = false ↔ s.dashboard.phase ≠ .loading := by
    cases s.dashboard.phase <;> simp [Phase.isLoading]
  unfold isDue
  cases hinterval : s.interval with
  | none =>
      refine ⟨Bool.noConfusion, fun h => ?_⟩
      obtain ⟨i, hi, -⟩ := h.elapsed
      cases hinterval.symm.trans hi
  | some i =>
      simp only [Bool.and_eq_true, Bool.not_eq_true', hphase, Option.isNone_iff_eq_none,
        decide_eq_true_eq]
      constructor
      · rintro ⟨⟨hsettled, hqueued⟩, helapsed⟩
        exact ⟨⟨i, hinterval, helapsed⟩, hsettled, hqueued⟩
      · rintro ⟨⟨j, hj, helapsed⟩, hsettled, hqueued⟩
        cases hinterval.symm.trans hj
        exact ⟨⟨hsettled, hqueued⟩, helapsed⟩

end Session

end WaybillBoard
