import Mathlib.Logic.ExistsUnique
import WaybillBoard.Proofs.Dashboard.Linked

/-!
Delivery. While a dashboard loads there is one ticket that can still answer it, or its answer lies
in the mailbox; and the answer stays there, whatever else happens, until it is looked for.
-/

namespace WaybillBoard.Dashboard

/-- Events that neither replace, end nor look for the fetch in flight. -/
def Event.LeavesFetch : Event → Prop
  | .refresh | .navigate _ | .unmount | .complete _ _ | .poll => False
  | _ => True

theorem arrived_mailed {d : Dashboard} {generation : Nat} (h : d.Expects generation)
    {mail : Mailbox} {outcome : FetchOutcome} (hmail : mail.outcome? = some outcome) :
    (d.mailed mail).arrived? = some (generation, outcome) := by
  obtain ⟨f, hf, -, rfl⟩ := h
  simp [arrived?, mailed, hf, hmail]

/-- A box in which an outcome lies takes no other. -/
theorem not_expects_of_arrived {d : Dashboard} {found : Nat × FetchOutcome}
    (h : d.arrived? = some found) (generation : Nat) : ¬ d.Expects generation := by
  rintro ⟨f, hf, hempty, -⟩
  simp [arrived?, hf, hempty, Mailbox.outcome?] at h

theorem poll_of_expects {d : Dashboard} {generation : Nat} (h : d.Expects generation) :
    d.poll = (d, false) := by
  obtain ⟨f, hf, hempty, -⟩ := h
  exact poll_of_none (by simp [arrived?, hf, hempty, Mailbox.outcome?])

theorem deliver_taken_iff {d : Dashboard} {generation : Nat} {outcome : FetchOutcome} :
    (d.deliver generation outcome).2 = true ↔ d.Expects generation := by
  by_cases h : d.Expects generation
  · simp [deliver_of_expects h, h]
  · simp [deliver_of_not_expects h, h]

namespace Scene

theorem arrived_step {k : Scene} {found : Nat × FetchOutcome}
    (h : k.dashboard.arrived? = some found) {e : Event} (he : e.LeavesFetch) :
    (k.step e).dashboard.arrived? = some found := by
  cases e with
  | refresh | navigate | unmount | complete | poll => exact he.elim
  | setQuery query => exact h
  | setFilter filter => exact h
  | cycleFilter => exact h
  | toggle ns => exact h
  | setAllExpanded expanded => exact (arrived_setAllExpanded k.dashboard expanded).trans h
  | track generation task => exact (arrived_track k.dashboard generation task).trans h
  | send ticket outcome =>
      rw [step]
      split
      · rw [deliver_of_not_expects (not_expects_of_arrived h _)]
        exact h
      · exact h
  | drop ticket =>
      rw [step]
      split
      · rw [abandon_of_not_expects (not_expects_of_arrived h _)]
        exact h
      · exact h

theorem arrived_run {k : Scene} {found : Nat × FetchOutcome}
    (h : k.dashboard.arrived? = some found) {events : List Event}
    (hevents : ∀ e ∈ events, e.LeavesFetch) :
    (k.run events).dashboard.arrived? = some found := by
  induction events generalizing k with
  | nil => exact h
  | cons e events ih =>
      obtain ⟨he, hrest⟩ := List.forall_mem_cons.mp hevents
      exact ih (arrived_step h he) hrest

/-- What has arrived is found by the next look, as if it were completed then. -/
theorem poll_run {k : Scene} (hlinked : k.Linked) {generation : Nat} {outcome : FetchOutcome}
    (h : k.dashboard.arrived? = some (generation, outcome)) {events : List Event}
    (hevents : ∀ e ∈ events, e.LeavesFetch) :
    let d := (k.run events).dashboard
    d.poll = d.complete generation outcome ∧ d.poll.2 = true := by
  have harrived := arrived_run h hevents
  have hlinked' := hlinked.run events
  have hpoll := poll_linked hlinked' harrived
  refine ⟨?_, by rw [hpoll]⟩
  rw [hpoll, complete_eq, if_pos (arrived_linked hlinked' harrived)]

theorem Linked.expects_iff {k : Scene} (h : k.Linked) {ticket : Ticket} (out : ticket ∈ k.held) :
    k.dashboard.Expects ticket.generation ↔
      k.dashboard.phase = .loading ∧ ticket.generation = k.dashboard.generation := by
  constructor
  · rintro ⟨f, hf, -, hg⟩
    exact ⟨h.loading_iff.mpr (Option.isSome_of_eq_some hf), hg.symm.trans (h.generation_eq f hf)⟩
  · rintro ⟨hloading, hg⟩
    obtain ⟨f, hf⟩ := Option.isSome_iff_exists.mp (h.loading_iff.mp hloading)
    exact ⟨f, hf, (h.empty_iff f hf).mpr ⟨ticket, out, hg⟩, (h.generation_eq f hf).trans hg.symm⟩

/-- Loading means that one ticket is live, and what is delivered on it is not lost. -/
structure OneLiveTicket (k : Scene) : Prop where
  loading_iff : k.dashboard.phase = .loading ↔ k.dashboard.inFlight.isSome
  generation_eq : ∀ f, k.dashboard.inFlight = some f → f.generation = k.dashboard.generation
  /-- The fetch in flight waits at an empty mailbox as long as one ticket is out for it. -/
  empty_iff : ∀ f, k.dashboard.inFlight = some f →
    (f.mailbox = .empty ↔ ∃! t, t ∈ k.held ∧ t.generation = k.dashboard.generation)
  send_iff : ∀ t ∈ k.held, ∀ outcome, (k.dashboard.deliver t.generation outcome).2 = true ↔
    k.dashboard.phase = .loading ∧ t.generation = k.dashboard.generation
  /-- While the live ticket is out, a look into the mailbox finds nothing and changes nothing. -/
  poll_out : ∀ t ∈ k.held, k.dashboard.phase = .loading →
    t.generation = k.dashboard.generation → k.dashboard.poll = (k.dashboard, false)
  /-- An outcome that was sent is found by the next look, as if it were completed then. -/
  poll_sent : ∀ t ∈ k.held, ∀ outcome, (k.dashboard.deliver t.generation outcome).2 = true →
    ∀ between : List Event, (∀ e ∈ between, e.LeavesFetch) →
      let d := ((k.step (.send t outcome)).run between).dashboard
      d.poll = d.complete t.generation outcome ∧ d.poll.2 = true
  /-- A live ticket that was dropped is found as an error. -/
  poll_dropped : ∀ t ∈ k.held, k.dashboard.phase = .loading →
    t.generation = k.dashboard.generation →
    ∀ between : List Event, (∀ e ∈ between, e.LeavesFetch) →
      let d := ((k.step (.drop t)).run between).dashboard
      d.poll = d.complete t.generation (.error (.network "fetch ended without a result")) ∧
        d.poll.2 = true

theorem one_live_ticket (route : Route) (threshold : Binary64) (events : List Event) :
    OneLiveTicket (after route threshold events) := by
  have h := linked_after route threshold events
  generalize after route threshold events = k at h
  refine ⟨h.loading_iff, h.generation_eq, ?_, ?_, ?_, ?_, ?_⟩
  · intro f hf
    rw [h.empty_iff f hf]
    constructor
    · rintro ⟨t, ht, hg⟩
      exact ⟨t, ⟨ht, hg⟩, fun s hs => h.held_inj hs.1 ht (hs.2.trans hg.symm)⟩
    · rintro ⟨t, ⟨ht, hg⟩, -⟩
      exact ⟨t, ht, hg⟩
  · intro t ht outcome
    rw [deliver_taken_iff, h.expects_iff ht]
  · intro t ht hloading hg
    exact poll_of_expects ((h.expects_iff ht).mpr ⟨hloading, hg⟩)
  · intro t ht outcome hsent between hbetween
    have hbox := deliver_taken_iff.mp hsent
    apply poll_run (h.effect (effect_step h _)) _ hbetween
    rw [step, if_pos ht, deliver_of_expects hbox]
    exact arrived_mailed hbox rfl
  · intro t ht hloading hg between hbetween
    have hbox := (h.expects_iff ht).mpr ⟨hloading, hg⟩
    apply poll_run (h.effect (effect_step h _)) _ hbetween
    rw [step, if_pos ht, abandon_of_expects hbox]
    exact arrived_mailed hbox rfl

/-- A failure that was sent for the first request is found although the query changed since. -/
theorem one_live_ticket_sent :
    let k := after .all Search.defaultThreshold [.refresh]
    let failure : FetchOutcome := .error (.notFound "a")
    let d := ((k.step (.send ⟨1, .all⟩ failure)).run [.setQuery "b"]).dashboard
    ⟨1, .all⟩ ∈ k.held ∧ d.poll = d.complete 1 failure ∧ d.poll.2 = true := by
  refine ⟨List.mem_singleton.mpr rfl, ?_⟩
  refine (one_live_ticket .all Search.defaultThreshold [.refresh]).poll_sent ⟨1, .all⟩
    (List.mem_singleton.mpr rfl) _ rfl _ ?_
  exact List.forall_mem_singleton.mpr trivial

end Scene

end WaybillBoard.Dashboard
