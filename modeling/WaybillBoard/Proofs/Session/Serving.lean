import WaybillBoard.Proofs.Dashboard.Delivery
import WaybillBoard.Proofs.Session.Effects
import WaybillBoard.Source.Decode

/-!
Serving. The ticket that a session has queued is taken and answered from a list, and the session
looks for the answer. After a request this always settles the dashboard.
-/

namespace WaybillBoard

namespace Dashboard

/-- The answer to a request is found by the next look. -/
theorem poll_answered (d : Dashboard) (outcome : FetchOutcome) :
    (d.refresh.1.deliver d.refresh.2.generation outcome).1.poll =
      (d.refresh.1.settled outcome, true) := by
  have hbox : d.refresh.1.Expects d.refresh.2.generation := by
    rw [refresh_eq]
    exact ⟨_, rfl, rfl, rfl⟩
  have harrived : (d.refresh.1.mailed (.delivered outcome)).arrived? =
      some (d.refresh.2.generation, outcome) := arrived_mailed hbox rfl
  rw [deliver_of_expects hbox, poll_of_some harrived, complete_eq, if_pos]
  · cases outcome with
    | ok s => rfl
    | error e => rfl
  · rw [refresh_eq]
    exact ⟨rfl, rfl⟩

end Dashboard

namespace Session

/-- Takes the queued ticket, answers it from a list and looks for the answer. -/
def serve (s : Session) (list : StatusList) (fetchedAt : Time.Instant) : Session :=
  match s.take with
  | (s, none) => s
  | (s, some ticket) =>
    let answer := Snapshot.select list ticket.scope fetchedAt
    poll { s with dashboard := (s.dashboard.deliver ticket.generation answer).1 } |>.1

/-- Serving is what three events of a run do. -/
theorem Scene.run_serve (k : Scene) {ticket : Ticket} (h : k.session.queued = some ticket)
    (list : StatusList) (fetchedAt : Time.Instant) :
    (k.run [.take, .send ticket (Snapshot.select list ticket.scope fetchedAt), .poll]).session =
      k.session.serve list fetchedAt := by
  have hout : ticket ∈ (some ticket).toList ++ k.taken := List.mem_cons_self
  simp only [run, List.foldl_cons, List.foldl_nil, step, enter, serve, take, h, if_pos hout]

/-- A look that takes something changes no more than dashboard, message and selection. -/
theorem poll_taken {s : Session} {d : Dashboard} (h : s.dashboard.poll = (d, true)) :
    ∃ message selected offset,
      s.poll.1 = { s with dashboard := d, message, selected, offset } ∧
        (s.selected = 0 → selected = 0) ∧ (d.phase = .ready → message = s.message) := by
  rcases poll_eq s with ⟨-, hsame⟩ | ⟨message, hpoll, hkept⟩
  · rw [h] at hsame
    cases hsame
  · rw [h] at hpoll hkept
    obtain ⟨selected, offset, hclamp, hfirst⟩ :=
      clampSelection_eq { s with dashboard := d, message }
    exact ⟨message, selected, offset, hpoll.trans hclamp, hfirst, hkept⟩

/-- The session that a request is served for. -/
theorem serve_requested {s : Session} {d : Dashboard} (hdashboard : s.dashboard = d.refresh.1)
    (hqueued : s.queued = some d.refresh.2) (list : StatusList) (fetchedAt : Time.Instant) :
    let served := d.refresh.1.settled (Snapshot.select list d.route.scope fetchedAt)
    ∃ message selected offset,
      s.serve list fetchedAt =
          { s with dashboard := served, queued := none, message, selected, offset } ∧
        (s.selected = 0 → selected = 0) ∧ (served.phase = .ready → message = s.message) := by
  intro served
  have hscope : d.refresh.2.scope = d.route.scope := by rw [Dashboard.refresh_eq]
  have hpoll : (s.dashboard.deliver d.refresh.2.generation
      (Snapshot.select list d.route.scope fetchedAt)).1.poll = (served, true) := by
    rw [hdashboard]
    exact d.poll_answered _
  obtain ⟨message, selected, offset, heq, hkept⟩ := poll_taken (s := { s with
    queued := none
    dashboard := (s.dashboard.deliver d.refresh.2.generation
      (Snapshot.select list d.route.scope fetchedAt)).1 }) hpoll
  refine ⟨message, selected, offset, ?_, hkept⟩
  simp only [serve, take, hqueued, hscope]
  exact heq

end Session

end WaybillBoard
