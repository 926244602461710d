import Mathlib.Data.List.Induction
import WaybillBoard.Proofs.Dashboard.Latest

/-!
The tasks that work on fetches. One that works on a superseded fetch is aborted, be it registered
before or after that, and the one that works on the fetch in flight is not.
-/

namespace WaybillBoard

/-- A fetch in flight without its mailbox. -/
def InFlight.tag (f : InFlight) : Nat × Option TaskId := (f.generation, f.task)

namespace Dashboard

/-- The ticket of a generation was waited for until another was issued or the dashboard was
unmounted. -/
def Superseded : List Entry → Nat → Prop
  | [], _ => False
  | .applied _ _ :: log, generation => Superseded log generation
  | .issued _ _ :: log, generation => Awaited log generation ∨ Superseded log generation
  | .unmounted :: log, generation => Awaited log generation ∨ Superseded log generation

theorem superseded_cons {entry : Entry} (h : entry.applied? = none) {log : List Entry}
    {generation : Nat} :
    Superseded (entry :: log) generation ↔ Awaited log generation ∨ Superseded log generation := by
  cases entry with
  | applied g outcome => cases h
  | issued | unmounted => exact Iff.rfl

def Event.registration? : Event → Option (Nat × TaskId)
  | .track generation task => some (generation, task)
  | _ => none

theorem Event.registration?_eq_some_iff {e : Event} {generation : Nat} {task : TaskId} :
    e.registration? = some (generation, task) ↔ e = .track generation task := by
  cases e <;> simp [registration?]

/-- The tasks that were registered, in order, each with the generation that it works for. -/
def registrations (events : List Event) : List (Nat × TaskId) :=
  events.filterMap Event.registration?

theorem exists_of_tag_eq {d d' : Dashboard}
    (h : d'.inFlight.map InFlight.tag = d.inFlight.map InFlight.tag) {f : InFlight}
    (hf : d'.inFlight = some f) :
    ∃ f', d.inFlight = some f' ∧ f'.generation = f.generation ∧ f'.task = f.task := by
  rw [hf, Option.map_some] at h
  obtain ⟨f', hf', heq⟩ := Option.map_eq_some_iff.mp h.symm
  exact ⟨f', hf', (Prod.mk.inj heq).1, (Prod.mk.inj heq).2⟩

@[simp] theorem settled_aborted (d : Dashboard) (outcome : FetchOutcome) :
    (d.settled outcome).aborted = d.aborted := by cases outcome <;> rfl

namespace Scene

/-- What an event that registers no task can do to those that are. -/
inductive Passed (k : Scene) : Scene → Prop
  | same {d : Dashboard} {held : List Ticket}
      (tag_eq : d.inFlight.map InFlight.tag = k.dashboard.inFlight.map InFlight.tag)
      (aborted_eq : d.aborted = k.dashboard.aborted)
      (generation_eq : d.generation = k.dashboard.generation) :
      Passed k { k with dashboard := d, held }
  /-- The fetch in flight was given up, and at most one without a task is in its place. -/
  | replaced {d : Dashboard} {held : List Ticket} {entry : Entry} (entry_eq : entry.applied? = none)
      (aborted_eq : d.aborted = k.dashboard.givenUp ++ k.dashboard.aborted)
      (generation_eq : d.generation = k.dashboard.generation + 1)
      (fresh : ∀ f, d.inFlight = some f → f.tag = (d.generation, none)) :
      Passed k ⟨d, held, entry :: k.log⟩
  | ended (outcome : FetchOutcome) :
      Passed k { k with
        dashboard := k.dashboard.settled outcome
        log := .applied k.dashboard.generation outcome :: k.log }

theorem passed_issue {k : Scene} {d : Dashboard} (hd : d = k.dashboard ∨
    ∃ route, d = k.dashboard.moved route) : Passed k (k.issue d.refresh) := by
  have hsame : d.givenUp ++ d.aborted = k.dashboard.givenUp ++ k.dashboard.aborted := by
    rcases hd with rfl | ⟨route, rfl⟩ <;> rfl
  rw [issue, refresh_eq, generation_of_moved hd, hsame]
  refine .replaced rfl rfl rfl fun f hf => ?_
  cases hf
  rfl

theorem passed_complete (k : Scene) (generation : Nat) (outcome : FetchOutcome) :
    Passed k (k.offer generation outcome (k.dashboard.complete generation outcome)) := by
  rw [complete_eq]
  by_cases h : generation = k.dashboard.generation ∧ k.dashboard.phase = .loading
  · rw [if_pos h, h.1]
    exact .ended outcome
  · rw [if_neg h]
    exact .same rfl rfl rfl

theorem tag_mailed (d : Dashboard) (mail : Mailbox) :
    (d.mailed mail).inFlight.map InFlight.tag = d.inFlight.map InFlight.tag := by
  rw [mailed, Option.map_map]
  rfl

theorem passed_used {k : Scene} {ticket : Ticket} {d : Dashboard} (h : Used k.dashboard ticket d)
    (held : List Ticket) : Passed k { k with dashboard := d, held } := by
  by_cases hbox : k.dashboard.Expects ticket.generation
  · cases h with
    | sent outcome =>
        rw [deliver_of_expects hbox]
        exact .same (tag_mailed _ _) rfl rfl
    | dropped =>
        rw [abandon_of_expects hbox]
        exact .same (tag_mailed _ _) rfl rfl
  · cases h with
    | sent outcome =>
        rw [deliver_of_not_expects hbox]
        exact .same rfl rfl rfl
    | dropped =>
        rw [abandon_of_not_expects hbox]
        exact .same rfl rfl rfl

theorem passed_step {k : Scene} (h : k.Linked) {e : Event} (he : e.registration? = none) :
    Passed k (k.step e) := by
  cases e with
  | track generation task => cases he
  | refresh => exact passed_issue (.inl rfl)
  | navigate route =>
      rw [step, navigate_eq]
      by_cases hstay : route = k.dashboard.route ∧ k.dashboard.phase ≠ .idle
      · rw [if_pos hstay]
        exact .same rfl rfl rfl
      · rw [if_neg hstay]
        exact passed_issue (.inr ⟨route, rfl⟩)
  | unmount =>
      rw [step, unmount_eq]
      exact .replaced rfl rfl rfl fun f hf => by cases hf
  | complete generation outcome => exact passed_complete k generation outcome
  | poll =>
      rw [step]
      cases harrived : k.dashboard.arrived? with
      | none =>
          simp only [poll_of_none harrived]
          exact .same rfl rfl rfl
      | some found =>
          obtain ⟨generation, outcome⟩ := found
          obtain ⟨rfl, -⟩ := arrived_linked h harrived
          simp only [poll_linked h harrived]
          exact .ended outcome
  | setQuery | setFilter | cycleFilter | toggle => exact .same rfl rfl rfl
  | setAllExpanded expanded =>
      obtain ⟨expansion, heq⟩ := setAllExpanded_eq k.dashboard expanded
      rw [step, heq]
      exact .same rfl rfl rfl
  | send ticket outcome =>
      rw [step]
      split
      · exact passed_used (.sent outcome) _
      · exact .same rfl rfl rfl
  | drop ticket =>
      rw [step]
      split
      · exact passed_used .dropped _
      · exact .same rfl rfl rfl

/-- The tasks that were registered, as far as the dashboard and the log know of them. -/
structure Tended (k : Scene) (registered : List (Nat × TaskId)) : Prop where
  /-- The task of the fetch in flight is the one that was registered for it. -/
  task_iff : ∀ f, k.dashboard.inFlight = some f → ∀ task,
    (f.generation, task) ∈ registered ↔ f.task = some task
  running : ∀ f task, k.dashboard.inFlight = some f → f.task = some task →
    task ∉ k.dashboard.aborted
  aborted : ∀ task ∈ k.dashboard.aborted, ∃ generation, (generation, task) ∈ registered
  superseded : ∀ r ∈ registered, Superseded k.log r.1 → r.2 ∈ k.dashboard.aborted
  past : ∀ generation, Superseded k.log generation → generation < k.dashboard.generation
  registered_le : ∀ r ∈ registered, r.1 ≤ k.dashboard.generation

theorem tended_start (route : Route) (threshold : Binary64) :
    (start route threshold).Tended [] where
  task_iff := by simp [start]
  running := by simp [start]
  aborted := by simp [start]
  superseded := by simp
  past := by simp [start, Superseded]
  registered_le := by simp

/-- Where nothing was given up, and what is in flight was so before. -/
theorem Tended.kept {k k' : Scene} {registered : List (Nat × TaskId)} (h : k.Tended registered)
    (hflight : ∀ f, k'.dashboard.inFlight = some f →
      ∃ f', k.dashboard.inFlight = some f' ∧ f'.generation = f.generation ∧ f'.task = f.task)
    (haborted : k'.dashboard.aborted = k.dashboard.aborted)
    (hgeneration : k'.dashboard.generation = k.dashboard.generation)
    (hsuperseded : ∀ generation, Superseded k'.log generation → Superseded k.log generation) :
    k'.Tended registered where
  task_iff f hf := by
    obtain ⟨f', hf', hg, ht⟩ := hflight f hf
    rw [← hg, ← ht]
    exact h.task_iff f' hf'
  running f task hf htask := by
    obtain ⟨f', hf', -, ht⟩ := hflight f hf
    rw [haborted]
    exact h.running f' task hf' (ht.trans htask)
  aborted := by
    rw [haborted]
    exact h.aborted
  superseded r hr hs := by
    rw [haborted]
    exact h.superseded r hr (hsuperseded r.1 hs)
  past generation hs := by
    rw [hgeneration]
    exact h.past generation (hsuperseded generation hs)
  registered_le := by
    rw [hgeneration]
    exact h.registered_le

/-- The task of the fetch that was waited for until now. -/
theorem Tended.mem_givenUp {k : Scene} {registered : List (Nat × TaskId)} (h : k.Tended registered)
    (hlinked : k.Linked) (hlogged : k.Logged) {r : Nat × TaskId} (hr : r ∈ registered)
    (hawaited : Awaited k.log r.1) : r.2 ∈ k.dashboard.givenUp := by
  obtain ⟨hloading, hg⟩ := (hlogged.awaited_iff _).mp hawaited
  obtain ⟨f, hf⟩ := Option.isSome_iff_exists.mp (hlinked.loading_iff.mp hloading)
  have hr' : (f.generation, r.2) ∈ registered := by
    rw [hlinked.generation_eq f hf, ← hg]
    exact hr
  rw [givenUp, Option.mem_toList, hf]
  exact (h.task_iff f hf r.2).mp hr'

theorem Tended.passed {k k' : Scene} {registered : List (Nat × TaskId)} (h : k.Tended registered)
    (hlinked : k.Linked) (hlogged : k.Logged) (e : Passed k k') : k'.Tended registered := by
  cases e with
  | same htag haborted hgeneration =>
      exact h.kept (fun f hf => exists_of_tag_eq htag hf) haborted hgeneration fun _ => id
  | ended outcome =>
      refine h.kept (fun f hf => ?_) (settled_aborted _ _) (settled_generation _ _) fun _ => id
      rw [settled_inFlight] at hf
      cases hf
  | replaced hentry haborted hgeneration hfresh =>
      refine ⟨fun f hf task => ?_, fun f task hf htask => ?_, fun task ht => ?_, fun r hr hs => ?_,
        fun generation hs => ?_, fun r hr => ?_⟩
      · -- Nothing can have been registered for a generation that begins only now.
        obtain ⟨hg, ht⟩ := Prod.mk.inj (hfresh f hf)
        rw [hg, ht, hgeneration]
        exact iff_of_false (fun hr => Nat.not_succ_le_self _ (h.registered_le _ hr)) (by simp)
      · obtain ⟨-, ht⟩ := Prod.mk.inj (hfresh f hf)
        cases ht.symm.trans htask
      · rw [haborted, List.mem_append, givenUp, Option.mem_toList] at ht
        rcases ht with hnow | hold
        · obtain ⟨f, hf, htask⟩ := Option.bind_eq_some_iff.mp hnow
          exact ⟨f.generation, (h.task_iff f hf task).mpr htask⟩
        · exact h.aborted task hold
      · rw [haborted, List.mem_append]
        rcases (superseded_cons hentry).mp hs with hawaited | hold
        · exact .inl (h.mem_givenUp hlinked hlogged hr hawaited)
        · exact .inr (h.superseded r hr hold)
      · rw [hgeneration]
        rcases (superseded_cons hentry).mp hs with hawaited | hold
        · exact Nat.lt_succ_of_le (Nat.le_of_eq ((hlogged.awaited_iff _).mp hawaited).2)
        · exact Nat.lt_succ_of_lt (h.past generation hold)
      · rw [hgeneration]
        exact Nat.le_succ_of_le (h.registered_le r hr)

section Track

variable {k : Scene} {registered : List (Nat × TaskId)} (h : k.Tended registered) {task : TaskId}
  (htask : task ∉ registered.map Prod.snd)
include h htask

/-- A task for the fetch in flight, which had none. -/
theorem Tended.track_now (hlinked : k.Linked) {f : InFlight} (hf : k.dashboard.inFlight = some f)
    (hgeneration : f.generation ∉ registered.map Prod.fst) :
    (k.step (.track f.generation task)).Tended (registered ++ [(f.generation, task)]) := by
  have heq : k.dashboard.track f.generation task =
      { k.dashboard with inFlight := some { f with task := some task } } := by
    simp [Dashboard.track, hf]
  have hcurrent : f.generation = k.dashboard.generation := hlinked.generation_eq f hf
  rw [step, heq]
  refine ⟨fun f' hf' other => ?_, fun f' other hf' hother => ?_, fun other hmem => ?_,
    List.forall_mem_append.mpr ⟨h.superseded, List.forall_mem_singleton.mpr fun hs => ?_⟩,
    h.past, List.forall_mem_append.mpr ⟨h.registered_le, List.forall_mem_singleton.mpr ?_⟩⟩
  · cases hf'
    have hnone : (f.generation, other) ∉ registered := fun hr =>
      hgeneration (List.mem_map_of_mem hr)
    simp [hnone, eq_comm]
  · cases hf'
    cases hother
    intro hmem
    obtain ⟨g, hg⟩ := h.aborted task hmem
    exact htask (List.mem_map_of_mem hg)
  · obtain ⟨g, hg⟩ := h.aborted other hmem
    exact ⟨g, List.mem_append_left _ hg⟩
  · -- What is in flight now was not given up before.
    exact absurd (h.past _ hs) (Nat.not_lt_of_le (Nat.le_of_eq hcurrent.symm))
  · exact Nat.le_of_eq hcurrent

/-- A task for another fetch than the one in flight. -/
theorem Tended.track_late {generation : Nat} (hissued : generation ≤ k.dashboard.generation)
    (hlate : ∀ f, k.dashboard.inFlight = some f → f.generation ≠ generation) :
    (k.step (.track generation task)).Tended (registered ++ [(generation, task)]) := by
  have heq : k.dashboard.track generation task =
      { k.dashboard with aborted := task :: k.dashboard.aborted } := by
    cases hf : k.dashboard.inFlight with
    | none => simp [Dashboard.track, hf]
    | some f => simp [Dashboard.track, hf, hlate f hf]
  rw [step, heq]
  refine ⟨fun f hf other => ?_, fun f other hf hother => ?_, ?_, ?_, h.past,
    List.forall_mem_append.mpr ⟨h.registered_le, List.forall_mem_singleton.mpr hissued⟩⟩
  · rw [← h.task_iff f hf other, List.mem_append, List.mem_singleton, Prod.mk.injEq,
      or_iff_left fun heq => hlate f hf heq.1]
  · have hr := (h.task_iff f hf other).mpr hother
    refine List.not_mem_cons_of_ne_of_not_mem ?_ (h.running f other hf hother)
    rintro rfl
    exact htask (List.mem_map_of_mem hr)
  · refine List.forall_mem_cons.mpr ⟨⟨generation, by simp⟩, fun other hmem => ?_⟩
    obtain ⟨g, hg⟩ := h.aborted other hmem
    exact ⟨g, List.mem_append_left _ hg⟩
  · refine List.forall_mem_append.mpr ⟨fun r hr hs => ?_, ?_⟩
    · exact List.mem_cons_of_mem _ (h.superseded r hr hs)
    · exact List.forall_mem_singleton.mpr fun _ => List.mem_cons_self

/-- The registration of a task for a ticket that was issued, when neither the ticket nor the task
was in any before. -/
theorem Tended.track (hlinked : k.Linked) {generation : Nat}
    (hissued : generation ≤ k.dashboard.generation)
    (hgeneration : generation ∉ registered.map Prod.fst) :
    (k.step (.track generation task)).Tended (registered ++ [(generation, task)]) := by
  by_cases hnow : ∃ f, k.dashboard.inFlight = some f ∧ f.generation = generation
  · obtain ⟨f, hf, rfl⟩ := hnow
    exact h.track_now htask hlinked hf hgeneration
  · exact h.track_late htask hissued fun f hf heq => hnow ⟨f, hf, heq⟩

end Track

/-- For every generation at most one task is registered, after the ticket was issued, and each task
works for one generation. -/
structure Orderly (route : Route) (threshold : Binary64) (events : List Event) : Prop where
  generations_nodup : ((registrations events).map Prod.fst).Nodup
  tasks_nodup : ((registrations events).map Prod.snd).Nodup
  issued : ∀ earlier generation task later, events = earlier ++ .track generation task :: later →
    ∃ i ∈ issuedIn (after route threshold earlier).log, i.1.generation = generation

theorem registrations_append (events : List Event) (e : Event) :
    registrations (events ++ [e]) = registrations events ++ e.registration?.toList := by
  rw [registrations, List.filterMap_append]
  cases h : e.registration? <;> simp [registrations, h]

theorem Orderly.before {route : Route} {threshold : Binary64} {events : List Event} {e : Event}
    (h : Orderly route threshold (events ++ [e])) : Orderly route threshold events := by
  have hgenerations := h.generations_nodup
  have htasks := h.tasks_nodup
  rw [registrations_append, List.map_append] at hgenerations htasks
  refine ⟨hgenerations.of_append_left, htasks.of_append_left, ?_⟩
  intro earlier generation task later heq
  exact h.issued earlier generation task (later ++ [e]) (by simp [heq])

theorem tended_after {route : Route} {threshold : Binary64} {events : List Event}
    (h : Orderly route threshold events) :
    (after route threshold events).Tended (registrations events) := by
  -- From the end, so that the last registration is new to all that came before it.
  induction events using List.reverseRecOn with
  | nil => exact tended_start route threshold
  | append_singleton events e ih =>
      have hbefore := ih h.before
      have hlinked := linked_after route threshold events
      have hlogged := logged_after route threshold events
      have hstep : after route threshold (events ++ [e]) = (after route threshold events).step e :=
        run_append _ _ _
      rw [hstep, registrations_append]
      cases hreg : e.registration? with
      | none =>
          rw [Option.toList_none, List.append_nil]
          exact hbefore.passed hlinked hlogged (passed_step hlinked hreg)
      | some r =>
          obtain ⟨generation, task⟩ := r
          have hgenerations := h.generations_nodup
          have htasks := h.tasks_nodup
          rw [registrations_append, hreg, List.map_append] at hgenerations htasks
          obtain rfl := Event.registration?_eq_some_iff.mp hreg
          obtain ⟨i, hi, rfl⟩ := h.issued events _ task [] rfl
          refine hbefore.track ?_ hlinked (hlogged.issued_le i hi) ?_
          · exact fun hmem => List.disjoint_of_nodup_append htasks hmem List.mem_cons_self
          · exact fun hmem => List.disjoint_of_nodup_append hgenerations hmem List.mem_cons_self

/-- A task for the fetch in flight runs, and one for a fetch that was superseded does not. -/
theorem superseded_tasks_aborted (route : Route) (threshold : Binary64) (events : List Event)
    (h : Orderly route threshold events) :
    let k := after route threshold events
    ∀ generation task, (generation, task) ∈ registrations events →
      (∀ f, k.dashboard.inFlight = some f → f.generation = generation →
        task ∉ k.dashboard.aborted) ∧
      (Superseded k.log generation → task ∈ k.dashboard.aborted) := by
  intro k generation task hr
  have htended := tended_after h
  refine ⟨?_, htended.superseded _ hr⟩
  rintro f hf rfl
  exact htended.running f task hf ((htended.task_iff f hf task).mp hr)

theorem orderly_late : Orderly .all Search.defaultThreshold
    [.refresh, .refresh, .track 2 8, .track 1 7] := by
  refine ⟨by decide, by decide, fun earlier generation task later heq => ?_⟩
  rcases earlier with _ | ⟨a, _ | ⟨b, _ | ⟨c, _ | ⟨d, earlier⟩⟩⟩⟩
  · cases heq
  · cases heq
  · cases heq
    exact ⟨_, List.mem_cons_self, rfl⟩
  · cases heq
    exact ⟨_, List.mem_cons_of_mem _ List.mem_cons_self, rfl⟩
  · simp at heq

/-- Of two requests the first is superseded, and its task comes late. -/
theorem superseded_tasks_aborted_late :
    let events : List Event := [.refresh, .refresh, .track 2 8, .track 1 7]
    let k := after .all Search.defaultThreshold events
    Orderly .all Search.defaultThreshold events ∧ 8 ∉ k.dashboard.aborted ∧
      7 ∈ k.dashboard.aborted := by
  have h := superseded_tasks_aborted .all Search.defaultThreshold _ orderly_late
  refine ⟨orderly_late, ?_, ?_⟩
  · exact (h 2 8 (by decide)).1 { generation := 2, task := some 8 } rfl rfl
  · exact (h 1 7 (by decide)).2 (.inl rfl)

end Scene

end Dashboard

end WaybillBoard
