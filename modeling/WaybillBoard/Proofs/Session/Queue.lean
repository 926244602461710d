import WaybillBoard.Proofs.Dashboard.Delivery
import WaybillBoard.Proofs.Session.Underlying

/-!
The queue. A ticket that is queued is the one that the dashboard waits for, and a ticket that it
waits for is somewhere: in the queue, out, or used up with its outcome still to be looked for.
-/

namespace WaybillBoard

namespace Dashboard.Scene

/-- The tickets that are out for the present generation ask for the present route. -/
def Aimed (k : Scene) : Prop :=
  ∀ t ∈ k.held, t.generation = k.dashboard.generation → t.scope = k.dashboard.route.scope

theorem aimed_effect {k k' : Scene} (hlinked : k.Linked) (h : k.Aimed) (e : Effect k k') :
    k'.Aimed := by
  have hpast : ∀ t ∈ k.held, t.generation ≠ k.dashboard.generation + 1 := fun t ht =>
    Nat.ne_of_lt (Nat.lt_succ_of_le (hlinked.held_le t ht))
  cases e with
  | nothing | narrowed | unfolded | registered => exact h
  | issued hd =>
      intro t ht hg
      rw [issue, refresh_eq, generation_of_moved hd] at hg
      rcases List.mem_cons.mp ht with rfl | hold
      · rw [issue, refresh_eq]
      · exact absurd hg (hpast t hold)
  | unmounted =>
      intro t ht hg
      rw [unmount_eq] at hg
      exact absurd hg (hpast t ht)
  | applied outcome =>
      rw [Aimed, settled_generation, settled_route]
      exact h
  | mailed | wasted => exact fun t ht => h t (List.mem_of_mem_erase ht)

theorem aimed_after (route : Route) (threshold : Binary64) (events : List Event) :
    (after route threshold events).Aimed :=
  (run_induction aimed_effect (linked_start route threshold)
    (fun _ ht => absurd ht List.not_mem_nil) events).2

/-- While it loads and no ticket is out for it, the outcome lies in the mailbox. -/
theorem Linked.poll_of_not_held {k : Scene} (h : k.Linked)
    (hloading : k.dashboard.phase = .loading)
    (hgone : ∀ t ∈ k.held, t.generation ≠ k.dashboard.generation) :
    k.dashboard.poll.2 = true := by
  obtain ⟨f, hf⟩ := Option.isSome_iff_exists.mp (h.loading_iff.mp hloading)
  have hfull : f.mailbox ≠ .empty := by
    intro hempty
    obtain ⟨t, ht, hg⟩ := (h.empty_iff f hf).mp hempty
    exact hgone t ht hg
  obtain ⟨outcome, hmail⟩ : ∃ outcome, f.mailbox.outcome? = some outcome := by
    cases hbox : f.mailbox with
    | empty => exact absurd hbox hfull
    | delivered outcome => exact ⟨outcome, rfl⟩
    | abandoned => exact ⟨_, rfl⟩
  have harrived : k.dashboard.arrived? = some (f.generation, outcome) := by
    simp only [arrived?, hf, Option.bind_some, hmail, Option.map_some]
  rw [poll_linked h harrived]

end Dashboard.Scene

namespace Session

theorem poll_changed (s : Session) : s.poll.2 = s.dashboard.poll.2 := by
  rcases hpoll : s.dashboard.poll with ⟨d, changed⟩
  cases changed <;> simp [poll, hpoll]

/-- The ticket that the dashboard waits for while it loads. -/
def awaited (s : Session) : Ticket := ⟨s.dashboard.generation, s.dashboard.route.scope⟩

namespace Scene

/-- Every ticket that was issued and where it is now. -/
def tickets (k : Scene) : List Ticket := k.session.queued.toList ++ k.taken ++ k.spent

theorem tickets_enter (k : Scene) (s : Session) : k.tickets ⊆ (k.enter s).tickets := by
  intro t ht
  by_cases hsame : s.queued = k.session.queued
  · simpa [tickets, enter, hsame] using ht
  · simp only [tickets, List.mem_append] at ht
    simp only [tickets, enter, if_neg hsame, List.mem_append]
    rcases ht with (hqueued | htaken) | hspent
    · exact .inr (.inl hqueued)
    · exact .inl (.inr htaken)
    · exact .inr (.inr hspent)

/-- What becomes of the fetch that a dashboard waits for, when a ticket may be queued for it. -/
inductive Turn (d : Dashboard) (queued : Option Ticket) (d' : Dashboard) : Option Ticket → Prop
  | stays (generation_eq : d'.generation = d.generation) (route_eq : d'.route = d.route)
      (phase_eq : d'.phase = d.phase) : Turn d queued d' queued
  | begins (loading : d'.phase = .loading) :
      Turn d queued d' (some ⟨d'.generation, d'.route.scope⟩)
  | ends (ended : d'.phase ≠ .loading) : Turn d queued d' none

theorem turn_of_change {K : Dashboard.Scene} (hK : K.Linked) {queued queued' : Option Ticket}
    {taken : List Ticket} {d' : Dashboard} (hheld : K.held = queued.toList ++ taken)
    (hqueued : ∀ t, queued = some t →
      t.generation = K.dashboard.generation ∧ K.dashboard.phase = .loading)
    (h : Change K.dashboard queued d' queued') : Turn K.dashboard queued d' queued' := by
  cases h with
  | nothing | narrowed | toggled => exact .stays rfl rfl rfl
  | tracked generation task =>
      obtain ⟨aborted, heq⟩ := Dashboard.track_eq K.dashboard generation task
      rw [heq]
      exact .stays rfl rfl rfl
  | asked | moved =>
      rw [Dashboard.refresh_eq]
      exact .begins rfl
  | unmounted =>
      rw [Dashboard.unmount_eq]
      exact .ends Phase.noConfusion
  | polled =>
      cases harrived : K.dashboard.arrived? with
      | none =>
          rw [Dashboard.poll_of_none harrived]
          exact .stays rfl rfl rfl
      | some found =>
          -- A ticket in the queue is out, so the mailbox that waits for it is empty.
          cases queued with
          | none =>
              rw [Dashboard.Scene.poll_linked hK harrived]
              exact .ends (Dashboard.settled_phase_ne_loading _ _)
          | some t =>
              obtain ⟨hg, hloading⟩ := hqueued t rfl
              have hout : t ∈ K.held := by simp [hheld]
              exact absurd ((hK.expects_iff hout).mpr ⟨hloading, hg⟩)
                (Dashboard.not_expects_of_arrived harrived _)

/-- The queue holds no ticket but the awaited one, and the awaited one was issued. -/
structure Kept (k : Scene) : Prop where
  queued : ∀ t, k.session.queued = some t →
    t.generation = k.session.dashboard.generation ∧ k.session.dashboard.phase = .loading
  issued : k.session.dashboard.phase = .loading → k.session.awaited ∈ k.tickets

theorem Kept.enter {k : Scene} (h : k.Kept) {s : Session}
    (turn : Turn k.session.dashboard k.session.queued s.dashboard s.queued) : (k.enter s).Kept := by
  generalize hq : s.queued = queued at turn
  cases turn with
  | stays hgeneration hroute hphase =>
      refine ⟨fun t ht => ?_, fun hloading => ?_⟩
      · change t.generation = s.dashboard.generation ∧ s.dashboard.phase = .loading
        rw [hgeneration, hphase]
        exact h.queued t (hq.symm.trans ht)
      · have hsame : (k.enter s).session.awaited = k.session.awaited := by
          change s.awaited = _
          rw [awaited, hgeneration, hroute, awaited]
        rw [hsame]
        exact tickets_enter k s (h.issued (hphase.symm.trans hloading))
  | begins hloading =>
      refine ⟨fun t ht => ?_, fun _ => ?_⟩
      · cases hq.symm.trans ht
        exact ⟨rfl, hloading⟩
      · simp [tickets, Scene.enter, hq, awaited]
  | ends hended =>
      refine ⟨fun t ht => ?_, fun hloading => absurd hloading hended⟩
      cases hq.symm.trans ht

theorem kept_happening {K : Dashboard.Scene} {k k' : Scene} (hK : K.Linked) (hbehind : Behind K k)
    (h : k.Kept) (e : Happening k k') : k'.Kept := by
  cases e with
  | nothing => exact h
  | entered he =>
      have hturn := turn_of_change hK hbehind.held_eq (hbehind.dashboard_eq ▸ h.queued)
        (hbehind.dashboard_eq ▸ he.change)
      exact h.enter (hbehind.dashboard_eq ▸ hturn)
  | taken =>
      refine ⟨fun t ht => ?_, h.issued⟩
      cases ht
  | used out hd =>
      rename_i ticket d
      obtain ⟨inFlight, rfl⟩ := hd.eq
      refine ⟨h.queued, fun hloading => ?_⟩
      have hissued := h.issued hloading
      simp only [tickets, List.mem_append, List.mem_cons] at hissued ⊢
      rcases hissued with (hqueued | htaken) | hspent
      · exact .inl (.inl hqueued)
      · by_cases hthis : k.session.awaited = ticket
        · exact .inr (.inl hthis)
        · exact .inl (.inr ((List.mem_erase_of_ne hthis).mpr htaken))
      · exact .inr (.inr hspent)

section Behind

variable {K : Dashboard.Scene} {k : Scene} (h : Behind K k) (hK : K.Linked)
include h

theorem Behind.mem_held_iff {t : Ticket} :
    t ∈ K.held ↔ k.session.queued = some t ∨ t ∈ k.taken := by
  rw [h.held_eq, List.mem_append, Option.mem_toList]

theorem Behind.eq_awaited (haimed : K.Aimed) {t : Ticket} (ht : t ∈ K.held)
    (hg : t.generation = k.session.dashboard.generation) : t = k.session.awaited := by
  rw [← h.dashboard_eq] at hg
  rw [awaited, ← h.dashboard_eq, ← hg, ← haimed t ht hg]

include hK

theorem Behind.deliver_awaited (hloading : k.session.dashboard.phase = .loading)
    (hout : k.session.awaited ∈ K.held) (outcome : FetchOutcome) :
    (k.session.dashboard.deliver k.session.awaited.generation outcome).2 = true := by
  rw [Dashboard.deliver_taken_iff, ← h.dashboard_eq, hK.expects_iff hout, h.dashboard_eq]
  exact ⟨hloading, rfl⟩

theorem Behind.poll_awaited (haimed : K.Aimed) (hloading : k.session.dashboard.phase = .loading)
    (hgone : k.session.awaited ∉ K.held) : k.session.poll.2 = true := by
  rw [poll_changed, ← h.dashboard_eq]
  refine hK.poll_of_not_held (h.dashboard_eq ▸ hloading) fun t ht hg => ?_
  rw [h.eq_awaited haimed ht (h.dashboard_eq ▸ hg)] at ht
  exact hgone ht

end Behind

/-- No ticket is stale that is queued, and none is forgotten that is awaited. -/
structure NothingForgotten (k : Scene) : Prop where
  queued : ∀ t, k.session.queued = some t →
    t = k.session.awaited ∧ k.session.dashboard.phase = .loading
  awaited : k.session.dashboard.phase = .loading →
    k.session.queued = some k.session.awaited ∨
    k.session.awaited ∈ k.taken ∧ (∀ outcome,
      (k.session.dashboard.deliver k.session.awaited.generation outcome).2 = true) ∨
    k.session.awaited ∈ k.spent ∧ k.session.poll.2 = true

theorem nothing_forgotten (route : Route) (threshold : Binary64) (label : String)
    (noIcons : Bool) (interval : Option Time.Period) (events : List Event) :
    NothingForgotten (after route threshold label noIcons interval events) := by
  have hstart : Kept (start route threshold label noIcons interval) := by
    refine ⟨fun t ht => ?_, fun _ => List.mem_singleton.mpr rfl⟩
    cases ht
    exact ⟨rfl, rfl⟩
  obtain ⟨hkept, events', hbehind⟩ := after_induction kept_happening hstart events
  have hK := Dashboard.Scene.linked_after route threshold events'
  have haimed := Dashboard.Scene.aimed_after route threshold events'
  generalize after route threshold label noIcons interval events = k at hkept hbehind
  refine ⟨fun t ht => ?_, fun hloading => ?_⟩
  · obtain ⟨hg, hloading⟩ := hkept.queued t ht
    exact ⟨hbehind.eq_awaited haimed (hbehind.mem_held_iff.mpr (.inl ht)) hg, hloading⟩
  · have hissued := hkept.issued hloading
    simp only [tickets, List.mem_append, Option.mem_toList] at hissued
    rcases hissued with (hqueued | htaken) | hspent
    · exact .inl hqueued
    · have hout := hbehind.mem_held_iff.mpr (.inr htaken)
      exact .inr (.inl ⟨htaken, hbehind.deliver_awaited hK hloading hout⟩)
    · -- No fact about the lists is needed: were the ticket out as well, it could still be sent.
      by_cases hout : k.session.awaited ∈ (Dashboard.Scene.after route threshold events').held
      · rcases hbehind.mem_held_iff.mp hout with hqueued | htaken
        · exact .inl hqueued
        · exact .inr (.inl ⟨htaken, hbehind.deliver_awaited hK hloading hout⟩)
      · exact .inr (.inr ⟨hspent, hbehind.poll_awaited hK haimed hloading hout⟩)

/-- A second request was taken and dropped, after the first one was answered too late. -/
theorem nothing_forgotten_dropped :
    let k := after .all Search.defaultThreshold "" false none
      [.take, .refresh 5, .send ⟨1, .all⟩ (.error (.notFound "a")), .take, .drop ⟨2, .all⟩]
    k.session.dashboard.phase = .loading ∧ k.session.queued = none ∧ k.taken = [] ∧
      k.session.poll.2 = true := by
  intro k
  have hloading : k.session.dashboard.phase = .loading := rfl
  refine ⟨hloading, rfl, rfl, ?_⟩
  rcases (nothing_forgotten .all Search.defaultThreshold "" false none
    [.take, .refresh 5, .send ⟨1, .all⟩ (.error (.notFound "a")), .take,
      .drop ⟨2, .all⟩]).awaited hloading with hqueued | ⟨htaken, -⟩ | ⟨-, hpoll⟩
  · cases hqueued
  · cases htaken
  · exact hpoll

end Scene

end Session

end WaybillBoard
