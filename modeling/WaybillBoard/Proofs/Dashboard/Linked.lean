import Mathlib.Data.List.Nodup
import WaybillBoard.Proofs.Dashboard.Scene

/-!
What every run keeps between the phase, the fetch in flight and the tickets that are out. `Effect`
says once what an event can do to a linked scene; invariants of runs are proved over the effects.
-/

namespace WaybillBoard.Dashboard.Scene

/-- Loading and a fetch in flight come together; the fetch in flight is of the present generation,
and its mailbox is empty as long as its ticket is out. The tickets that are out are of different
generations, up to the present one. -/
structure Linked (k : Scene) : Prop where
  loading_iff : k.dashboard.phase = .loading ↔ k.dashboard.inFlight.isSome
  generation_eq : ∀ f, k.dashboard.inFlight = some f → f.generation = k.dashboard.generation
  empty_iff : ∀ f, k.dashboard.inFlight = some f →
    (f.mailbox = .empty ↔ ∃ t ∈ k.held, t.generation = k.dashboard.generation)
  held_le : ∀ t ∈ k.held, t.generation ≤ k.dashboard.generation
  held_decrease : k.held.Pairwise fun later earlier => earlier.generation < later.generation

/-- What an event can do to a scene. -/
inductive Effect (k : Scene) : Scene → Prop
  | nothing : Effect k k
  /-- Another query or filter. -/
  | narrowed (query : String) (filter : OutcomeFilter) :
      Effect k { k with dashboard := updateVisible { k.dashboard with query, filter } }
  | unfolded (expansion : Expansion) :
      Effect k { k with dashboard := { k.dashboard with expansion } }
  | registered (generation : Nat) (task : TaskId) (aborted : List TaskId) :
      Effect k { k with
        dashboard := { k.dashboard with
          inFlight := k.dashboard.inFlight.map (·.register generation task), aborted } }
  /-- A request for the present route or, with nothing of the old one left, for another. -/
  | issued {d : Dashboard} (h : d = k.dashboard ∨ ∃ route, d = k.dashboard.moved route) :
      Effect k (k.issue d.refresh)
  | unmounted : Effect k { k with
      dashboard := k.dashboard.unmount, log := .unmounted :: k.log }
  /-- The fetch in flight has ended with an outcome. -/
  | applied (outcome : FetchOutcome) (h : k.dashboard.phase = .loading) :
      Effect k { k with
        dashboard := k.dashboard.settled outcome
        log := .applied k.dashboard.generation outcome :: k.log }
  /-- A ticket is used up, and its mail reaches the box that waits for it. -/
  | mailed {ticket : Ticket} {mail : Mailbox} (out : ticket ∈ k.held) (full : mail ≠ .empty)
      (h : k.dashboard.Expects ticket.generation) :
      Effect k { k with dashboard := k.dashboard.mailed mail, held := k.held.erase ticket }
  /-- A ticket is used up for which no box waits. -/
  | wasted {ticket : Ticket} (out : ticket ∈ k.held)
      (h : ¬ k.dashboard.Expects ticket.generation) :
      Effect k { k with held := k.held.erase ticket }

theorem arrived_linked {k : Scene} (h : k.Linked) {generation : Nat} {outcome : FetchOutcome}
    (harrived : k.dashboard.arrived? = some (generation, outcome)) :
    generation = k.dashboard.generation ∧ k.dashboard.phase = .loading := by
  obtain ⟨f, hf, hmail⟩ := Option.bind_eq_some_iff.mp harrived
  obtain ⟨found, -, heq⟩ := Option.map_eq_some_iff.mp hmail
  cases heq
  exact ⟨h.generation_eq f hf, h.loading_iff.mpr (Option.isSome_of_eq_some hf)⟩

/-- A look into the mailbox is the taking of what has arrived there. -/
theorem poll_linked {k : Scene} (h : k.Linked) {generation : Nat} {outcome : FetchOutcome}
    (harrived : k.dashboard.arrived? = some (generation, outcome)) :
    k.dashboard.poll = (k.dashboard.settled outcome, true) := by
  have hnow := arrived_linked h harrived
  rw [poll_of_some harrived, complete_eq, if_pos hnow]
  cases outcome <;> rfl

theorem effect_complete (k : Scene) (generation : Nat) (outcome : FetchOutcome) :
    Effect k (k.offer generation outcome (k.dashboard.complete generation outcome)) := by
  rw [complete_eq]
  by_cases h : generation = k.dashboard.generation ∧ k.dashboard.phase = .loading
  · rw [if_pos h, h.1]
    exact .applied outcome h.2
  · rw [if_neg h]
    exact .nothing

/-- The use of a ticket, when what it does to the dashboard is known for a box that waits for it
and for one that does not. -/
theorem effect_use {k : Scene} {d : Dashboard} {ticket : Ticket} (mail : Mailbox)
    (full : mail ≠ .empty)
    (hbox : k.dashboard.Expects ticket.generation → d = k.dashboard.mailed mail)
    (hnone : ¬ k.dashboard.Expects ticket.generation → d = k.dashboard) :
    Effect k (if ticket ∈ k.held then { k with dashboard := d, held := k.held.erase ticket }
      else k) := by
  by_cases out : ticket ∈ k.held
  · rw [if_pos out]
    by_cases h : k.dashboard.Expects ticket.generation
    · rw [hbox h]
      exact .mailed out full h
    · rw [hnone h]
      exact .wasted out h
  · rw [if_neg out]
    exact .nothing

/-- Every event has one of the effects. -/
theorem effect_step {k : Scene} (h : k.Linked) (e : Event) : Effect k (k.step e) := by
  cases e with
  | refresh => exact .issued (.inl rfl)
  | navigate route =>
      rw [step, navigate_eq]
      by_cases hstay : route = k.dashboard.route ∧ k.dashboard.phase ≠ .idle
      · rw [if_pos hstay]
        exact .nothing
      · rw [if_neg hstay]
        exact .issued (.inr ⟨route, rfl⟩)
  | unmount => exact .unmounted
  | complete generation outcome => exact effect_complete k generation outcome
  | poll =>
      rw [step]
      cases harrived : k.dashboard.arrived? with
      | none =>
          simp only [poll_of_none harrived]
          exact .nothing
      | some found =>
          obtain ⟨generation, outcome⟩ := found
          obtain ⟨rfl, hloading⟩ := arrived_linked h harrived
          simp only [poll_linked h harrived]
          exact .applied outcome hloading
  | setQuery query => exact .narrowed query k.dashboard.filter
  | setFilter filter => exact .narrowed k.dashboard.query filter
  | cycleFilter => exact .narrowed k.dashboard.query k.dashboard.filter.next
  | toggle ns => exact .unfolded _
  | setAllExpanded expanded =>
      obtain ⟨expansion, heq⟩ := setAllExpanded_eq k.dashboard expanded
      rw [step, heq]
      exact .unfolded expansion
  | track generation task =>
      obtain ⟨aborted, heq⟩ := track_eq k.dashboard generation task
      rw [step, heq]
      exact .registered generation task aborted
  | send ticket outcome =>
      refine effect_use (.delivered outcome) (by simp) ?_ ?_
      · exact fun h => congrArg Prod.fst (deliver_of_expects h outcome)
      · exact fun h => congrArg Prod.fst (deliver_of_not_expects h outcome)
  | drop ticket =>
      exact effect_use .abandoned (by simp) abandon_of_expects abandon_of_not_expects

theorem linked_start (route : Route) (threshold : Binary64) : (start route threshold).Linked where
  loading_iff := by simp [start]
  generation_eq := by simp [start]
  empty_iff := by simp [start]
  held_le := by simp [start]
  held_decrease := .nil

theorem Linked.held_nodup {k : Scene} (h : k.Linked) : (k.held.map Ticket.generation).Nodup :=
  List.pairwise_map.mpr (h.held_decrease.imp fun hlt => Nat.ne_of_gt hlt)

theorem Linked.held_inj {k : Scene} (h : k.Linked) {a b : Ticket} (ha : a ∈ k.held)
    (hb : b ∈ k.held) (hg : a.generation = b.generation) : a = b :=
  List.inj_on_of_nodup_map h.held_nodup ha hb hg

theorem Linked.generation_ne {k : Scene} (h : k.Linked) {ticket other : Ticket}
    (out : ticket ∈ k.held) (hother : other ∈ k.held.erase ticket) :
    other.generation ≠ ticket.generation := by
  obtain ⟨hne, hmem⟩ := (h.held_nodup.of_map _).mem_erase_iff.mp hother
  exact fun hg => hne (h.held_inj hmem out hg)

theorem Linked.register {k : Scene} (h : k.Linked) (generation : Nat) (task : TaskId)
    (aborted : List TaskId) :
    Linked { k with
      dashboard := { k.dashboard with
        inFlight := k.dashboard.inFlight.map (·.register generation task), aborted } } := by
  refine ⟨?_, ?_, ?_, h.held_le, h.held_decrease⟩
  · rw [h.loading_iff, Option.isSome_map]
  · intro f hf
    obtain ⟨f', hf', rfl⟩ := Option.map_eq_some_iff.mp hf
    rw [InFlight.register_generation]
    exact h.generation_eq f' hf'
  · intro f hf
    obtain ⟨f', hf', rfl⟩ := Option.map_eq_some_iff.mp hf
    rw [InFlight.register_mailbox]
    exact h.empty_iff f' hf'

theorem Linked.issue {k : Scene} (h : k.Linked) {d : Dashboard}
    (hd : d = k.dashboard ∨ ∃ route, d = k.dashboard.moved route) : (k.issue d.refresh).Linked := by
  rw [Scene.issue, refresh_eq, generation_of_moved hd]
  refine ⟨?_, ?_, ?_, ?_, ?_⟩
  · simp
  · simp
  · simp
  · simp only [List.mem_cons, forall_eq_or_imp, Nat.le_refl, true_and]
    exact fun t ht => Nat.le_succ_of_le (h.held_le t ht)
  · exact List.pairwise_cons.mpr
      ⟨fun t ht => Nat.lt_succ_of_le (h.held_le t ht), h.held_decrease⟩

theorem Linked.mail {k : Scene} (h : k.Linked) {ticket : Ticket} {mail : Mailbox}
    (out : ticket ∈ k.held) (full : mail ≠ .empty) (hbox : k.dashboard.Expects ticket.generation) :
    Linked { k with dashboard := k.dashboard.mailed mail, held := k.held.erase ticket } := by
  obtain ⟨f, hf, hempty, hg⟩ := hbox
  have hnow := h.generation_eq f hf
  refine ⟨?_, ?_, ?_, ?_, ?_⟩
  · rw [Dashboard.mailed, h.loading_iff, Option.isSome_map]
  · simpa [Dashboard.mailed, hf] using hnow
  · -- The mailbox is full now, and no other ticket that is out is of its generation.
    simp only [Dashboard.mailed, hf, Option.map_some, Option.some.injEq, forall_eq', full,
      false_iff]
    rintro ⟨t, ht, htg⟩
    exact h.generation_ne out ht (htg.trans (hnow.symm.trans hg))
  · exact fun t ht => h.held_le t (List.mem_of_mem_erase ht)
  · exact h.held_decrease.sublist List.erase_sublist

theorem Linked.waste {k : Scene} (h : k.Linked) {ticket : Ticket} (out : ticket ∈ k.held)
    (hbox : ¬ k.dashboard.Expects ticket.generation) :
    Linked { k with held := k.held.erase ticket } := by
  refine ⟨h.loading_iff, h.generation_eq, ?_, ?_, ?_⟩
  · intro f hf
    -- Were the ticket of the present generation, the mailbox would be empty and wait for it.
    have hother : ticket.generation ≠ k.dashboard.generation := by
      intro hg
      exact hbox ⟨f, hf, (h.empty_iff f hf).mpr ⟨ticket, out, hg⟩,
        (h.generation_eq f hf).trans hg.symm⟩
    rw [h.empty_iff f hf]
    constructor
    · rintro ⟨t, ht, htg⟩
      have hne : t ≠ ticket := by
        rintro rfl
        exact hother htg
      exact ⟨t, (List.mem_erase_of_ne hne).mpr ht, htg⟩
    · rintro ⟨t, ht, htg⟩
      exact ⟨t, List.mem_of_mem_erase ht, htg⟩
  · exact fun t ht => h.held_le t (List.mem_of_mem_erase ht)
  · exact h.held_decrease.sublist List.erase_sublist

theorem Linked.effect {k k' : Scene} (h : k.Linked) (e : Effect k k') : k'.Linked := by
  cases e with
  | nothing => exact h
  | narrowed query filter =>
      exact ⟨h.loading_iff, h.generation_eq, h.empty_iff, h.held_le, h.held_decrease⟩
  | unfolded expansion =>
      exact ⟨h.loading_iff, h.generation_eq, h.empty_iff, h.held_le, h.held_decrease⟩
  | registered generation task aborted => exact h.register generation task aborted
  | issued hd => exact h.issue hd
  | unmounted =>
      rw [unmount_eq]
      refine ⟨by simp, by simp, by simp, ?_, h.held_decrease⟩
      exact fun t ht => Nat.le_succ_of_le (h.held_le t ht)
  | applied outcome hloading =>
      refine ⟨?_, by simp, by simp, ?_, h.held_decrease⟩
      · simp [settled_phase_ne_loading]
      · rw [settled_generation]
        exact h.held_le
  | mailed out full hbox => exact h.mail out full hbox
  | wasted out hbox => exact h.waste out hbox

/-- What holds of a new dashboard and survives every effect holds after every run. -/
theorem run_induction {P : Scene → Prop}
    (keep : ∀ {k k'}, k.Linked → P k → Effect k k' → P k') {k : Scene} (hlinked : k.Linked)
    (h : P k) (events : List Event) : (k.run events).Linked ∧ P (k.run events) := by
  induction events generalizing k with
  | nil => exact ⟨hlinked, h⟩
  | cons e events ih =>
      have he := effect_step hlinked e
      exact ih (hlinked.effect he) (keep hlinked h he)

theorem Linked.run {k : Scene} (h : k.Linked) (events : List Event) : (k.run events).Linked :=
  (run_induction (P := fun _ => True) (fun _ _ _ => trivial) h trivial events).1

theorem linked_after (route : Route) (threshold : Binary64) (events : List Event) :
    (after route threshold events).Linked := (linked_start route threshold).run events

end WaybillBoard.Dashboard.Scene
