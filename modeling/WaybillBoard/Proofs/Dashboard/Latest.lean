import Mathlib.Data.List.Induction
import WaybillBoard.Proofs.Dashboard.Delivery

/-!
The latest request wins. The log of a run says which ticket is waited for; an outcome is taken only
for that one, once, and what is shown is the outcome that was taken last. Every outcome that is
taken can be traced to the ticket that it was sent on.
-/

namespace WaybillBoard.Dashboard

/-- The ticket that was issued last is of this generation, the dashboard was not unmounted since,
and no outcome was applied for the ticket. -/
def Awaited : List Entry → Nat → Prop
  | [], _ => False
  | .issued ticket _ :: _, generation => ticket.generation = generation
  | .unmounted :: _, _ => False
  | .applied g _ :: log, generation => g ≠ generation ∧ Awaited log generation

def Entry.issued? : Entry → Option (Ticket × Route)
  | .issued ticket route => some (ticket, route)
  | _ => none

def Entry.applied? : Entry → Option (Nat × FetchOutcome)
  | .applied generation outcome => some (generation, outcome)
  | _ => none

/-- The tickets that were issued, the latest first, each with the route that was shown then. -/
def issuedIn (log : List Entry) : List (Ticket × Route) := log.filterMap Entry.issued?

/-- The outcomes that were applied, the latest first, each with its generation. -/
def appliedIn (log : List Entry) : List (Nat × FetchOutcome) := log.filterMap Entry.applied?

/-- Whenever an outcome was applied, its ticket was waited for. -/
def OnlyAwaited (log : List Entry) : Prop :=
  ∀ later generation outcome earlier, log = later ++ .applied generation outcome :: earlier →
    Awaited earlier generation

theorem OnlyAwaited.cons {log : List Entry} (h : OnlyAwaited log) {entry : Entry}
    (hentry : ∀ generation outcome, entry = .applied generation outcome →
      Awaited log generation) : OnlyAwaited (entry :: log) := by
  intro later generation outcome earlier heq
  cases later with
  | nil =>
      obtain ⟨rfl, rfl⟩ := List.cons.inj heq
      exact hentry generation outcome rfl
  | cons e later =>
      rw [List.cons_append] at heq
      exact h later generation outcome earlier (List.cons.inj heq).2

/-- What a ticket brings that is used, be it sent or dropped. -/
def Event.brings? : Event → Option (Ticket × FetchOutcome)
  | .send ticket outcome => some (ticket, outcome)
  | .drop ticket => some (ticket, .error (.network "fetch ended without a result"))
  | _ => none

namespace Scene

/-- The log of a scene agrees with its dashboard. -/
structure Logged (k : Scene) : Prop where
  awaited_iff : ∀ generation, Awaited k.log generation ↔
    k.dashboard.phase = .loading ∧ generation = k.dashboard.generation
  issued_le : ∀ i ∈ issuedIn k.log, i.1.generation ≤ k.dashboard.generation
  issued_decrease : (issuedIn k.log).Pairwise fun later earlier =>
    earlier.1.generation < later.1.generation
  issued_scope : ∀ i ∈ issuedIn k.log, i.1.scope = i.2.scope
  /-- The ticket that is waited for asked for the present route. -/
  awaited_scope : k.dashboard.phase = .loading →
    ∃ i ∈ issuedIn k.log, i.1.generation = k.dashboard.generation ∧
      i.1.scope = k.dashboard.route.scope
  applied_le : ∀ a ∈ appliedIn k.log, a.1 ≤ k.dashboard.generation ∧
    (k.dashboard.phase = .loading → a.1 ≠ k.dashboard.generation)
  applied_decrease : (appliedIn k.log).Pairwise fun later earlier => earlier.1 < later.1
  only_awaited : OnlyAwaited k.log
  snapshot_latest : ∀ s, k.dashboard.snapshot = some s →
    ∃ generation, (appliedIn k.log).head? = some (generation, .ok s) ∧
      ∃ i ∈ issuedIn k.log, i.1.generation = generation ∧ i.1.scope = k.dashboard.route.scope

theorem logged_start (route : Route) (threshold : Binary64) : (start route threshold).Logged where
  awaited_iff := by simp [start, Awaited]
  issued_le := by simp [start, issuedIn]
  issued_decrease := .nil
  issued_scope := by simp [start, issuedIn]
  awaited_scope := by simp [start]
  applied_le := by simp [start, appliedIn]
  applied_decrease := .nil
  only_awaited := by simp [start, OnlyAwaited]
  snapshot_latest := by simp [start]

/-- Only what the log speaks of matters to it. -/
theorem Logged.congr {k : Scene} (h : k.Logged) {d : Dashboard} {held : List Ticket}
    (hphase : d.phase = k.dashboard.phase) (hgeneration : d.generation = k.dashboard.generation)
    (hroute : d.route = k.dashboard.route) (hsnapshot : d.snapshot = k.dashboard.snapshot) :
    Logged { k with dashboard := d, held } := by
  refine ⟨?_, ?_, h.issued_decrease, h.issued_scope, ?_, ?_, h.applied_decrease,
    h.only_awaited, ?_⟩
  · simpa only [hphase, hgeneration] using h.awaited_iff
  · simpa only [hgeneration] using h.issued_le
  · simpa only [hphase, hgeneration, hroute] using h.awaited_scope
  · simpa only [hphase, hgeneration] using h.applied_le
  · simpa only [hroute, hsnapshot] using h.snapshot_latest

theorem Logged.issue {k : Scene} (h : k.Logged) {d : Dashboard}
    (hd : d = k.dashboard ∨ ∃ route, d = k.dashboard.moved route) : (k.issue d.refresh).Logged := by
  rw [Scene.issue, refresh_eq, generation_of_moved hd]
  refine ⟨?_, ?_, ?_, ?_, ?_, ?_, h.applied_decrease, ?_, ?_⟩
  · simp [Awaited, eq_comm]
  · simp only [issuedIn, List.filterMap_cons, Entry.issued?, List.mem_cons, forall_eq_or_imp,
      Nat.le_refl, true_and]
    exact fun i hi => Nat.le_succ_of_le (h.issued_le i hi)
  · exact List.pairwise_cons.mpr
      ⟨fun i hi => Nat.lt_succ_of_le (h.issued_le i hi), h.issued_decrease⟩
  · exact List.forall_mem_cons.mpr ⟨rfl, h.issued_scope⟩
  · intro _
    exact ⟨_, List.mem_cons_self, rfl, rfl⟩
  · intro a ha
    have hle := (h.applied_le a ha).1
    exact ⟨Nat.le_succ_of_le hle, fun _ => Nat.ne_of_lt (Nat.lt_succ_of_le hle)⟩
  · exact h.only_awaited.cons fun generation outcome heq => by cases heq
  · intro s hs
    rcases hd with rfl | ⟨route, rfl⟩
    · obtain ⟨generation, hlast, i, hi, hg, hscope⟩ := h.snapshot_latest s hs
      exact ⟨generation, hlast, i, List.mem_cons_of_mem _ hi, hg, hscope⟩
    · cases hs

theorem Logged.unmount {k : Scene} (h : k.Logged) :
    Logged { k with dashboard := k.dashboard.unmount, log := .unmounted :: k.log } := by
  rw [unmount_eq]
  refine ⟨?_, ?_, h.issued_decrease, h.issued_scope, ?_, ?_, h.applied_decrease, ?_, ?_⟩
  · simp [Awaited]
  · exact fun i hi => Nat.le_succ_of_le (h.issued_le i hi)
  · exact Phase.noConfusion
  · exact fun a ha => ⟨Nat.le_succ_of_le (h.applied_le a ha).1, Phase.noConfusion⟩
  · exact h.only_awaited.cons fun generation outcome heq => by cases heq
  · intro s hs
    cases hs

theorem Logged.apply {k : Scene} (h : k.Logged) (outcome : FetchOutcome)
    (hloading : k.dashboard.phase = .loading) :
    Logged { k with
      dashboard := k.dashboard.settled outcome
      log := .applied k.dashboard.generation outcome :: k.log } := by
  have hdone := settled_phase_ne_loading k.dashboard outcome
  refine ⟨?_, ?_, h.issued_decrease, h.issued_scope, ?_, ?_, ?_, ?_, ?_⟩
  · intro generation
    simp only [Awaited, h.awaited_iff, hdone, false_and, iff_false, not_and]
    exact fun hne _ heq => hne heq.symm
  · rw [settled_generation]
    exact h.issued_le
  · exact fun hl => absurd hl hdone
  · intro a ha
    rw [settled_generation]
    refine ⟨?_, fun hl => absurd hl hdone⟩
    rcases List.mem_cons.mp ha with rfl | ha
    · exact Nat.le_refl _
    · exact (h.applied_le a ha).1
  · refine List.pairwise_cons.mpr ⟨?_, h.applied_decrease⟩
    intro a ha
    obtain ⟨hle, hne⟩ := h.applied_le a ha
    exact Nat.lt_of_le_of_ne hle (hne hloading)
  · refine h.only_awaited.cons fun generation outcome' heq => ?_
    cases heq
    exact (h.awaited_iff _).mpr ⟨hloading, rfl⟩
  · intro s hs
    rw [settled_route]
    cases outcome with
    | error e => cases hs
    | ok s' =>
        cases hs
        exact ⟨_, rfl, h.awaited_scope hloading⟩

theorem Logged.effect {k k' : Scene} (h : k.Logged) (e : Effect k k') : k'.Logged := by
  cases e with
  | nothing => exact h
  | narrowed query filter => exact h.congr rfl rfl rfl rfl
  | unfolded expansion => exact h.congr rfl rfl rfl rfl
  | registered generation task aborted => exact h.congr rfl rfl rfl rfl
  | issued hd => exact h.issue hd
  | unmounted => exact h.unmount
  | applied outcome hloading => exact h.apply outcome hloading
  | mailed out full hbox => exact h.congr rfl rfl rfl rfl
  | wasted out hbox => exact h.congr rfl rfl rfl rfl

theorem logged_after (route : Route) (threshold : Binary64) (events : List Event) :
    (after route threshold events).Logged :=
  (run_induction (fun _ h e => h.effect e) (linked_start route threshold)
    (logged_start route threshold) events).2

theorem Logged.issued_inj {k : Scene} (h : k.Logged) {i j : Ticket × Route}
    (hi : i ∈ issuedIn k.log) (hj : j ∈ issuedIn k.log) (hg : i.1.generation = j.1.generation) :
    i = j := by
  have hnodup : ((issuedIn k.log).map (·.1.generation)).Nodup :=
    List.pairwise_map.mpr (h.issued_decrease.imp fun hlt => Nat.ne_of_gt hlt)
  exact List.inj_on_of_nodup_map hnodup hi hj hg

/-- In a run a ticket was used while it was out, and it brought an outcome. -/
def Brought (first : Scene) (events : List Event) (ticket : Ticket) (outcome : FetchOutcome) :
    Prop :=
  ∃ before e later, events = before ++ e :: later ∧ e.brings? = some (ticket, outcome) ∧
    ticket ∈ (first.run before).held

/-- In a run an outcome was handed in for a generation and taken. -/
def HandedIn (first : Scene) (events : List Event) (generation : Nat) (outcome : FetchOutcome) :
    Prop :=
  ∃ before later, events = before ++ .complete generation outcome :: later ∧
    ((first.run before).dashboard.complete generation outcome).2 = true

/-- An outcome answers a ticket in one of the two ways. -/
def Answers (first : Scene) (events : List Event) (ticket : Ticket) (outcome : FetchOutcome) :
    Prop :=
  Brought first events ticket outcome ∨ HandedIn first events ticket.generation outcome

section Traced

variable {first k : Scene} {events : List Event} {ticket : Ticket} {outcome : FetchOutcome}

theorem Brought.append (h : Brought first events ticket outcome) (more : List Event) :
    Brought first (events ++ more) ticket outcome := by
  obtain ⟨before, e, later, rfl, hbrings, hout⟩ := h
  exact ⟨before, e, later ++ more, List.append_assoc _ _ _, hbrings, hout⟩

theorem Answers.append (h : Answers first events ticket outcome) (more : List Event) :
    Answers first (events ++ more) ticket outcome := by
  rcases h with hbrought | ⟨before, later, rfl, htaken⟩
  · exact .inl (hbrought.append more)
  · exact .inr ⟨before, later ++ more, List.append_assoc _ _ _, htaken⟩

/-- What has arrived or was applied can be traced to a ticket that was issued. -/
structure Traced (first : Scene) (events : List Event) (k : Scene) : Prop where
  held : ∀ t ∈ k.held, ∃ i ∈ issuedIn k.log, i.1 = t
  arrived : ∀ generation outcome, k.dashboard.arrived? = some (generation, outcome) →
    ∃ i ∈ issuedIn k.log, i.1.generation = generation ∧ Brought first events i.1 outcome
  applied : ∀ a ∈ appliedIn k.log,
    ∃ i ∈ issuedIn k.log, i.1.generation = a.1 ∧ Answers first events i.1 a.2

theorem traced_start (route : Route) (threshold : Binary64) :
    Traced (start route threshold) [] (start route threshold) where
  held := by simp [start]
  arrived := by simp [start, arrived?]
  applied := by simp [start, appliedIn]

/-- Traces stay when more happens, as long as nothing new arrives. -/
theorem Traced.more (h : Traced first events k) (e : Event) {d : Dashboard}
    (harrived : d.arrived? = none ∨ d.arrived? = k.dashboard.arrived?) :
    Traced first (events ++ [e]) { k with dashboard := d } := by
  refine ⟨h.held, fun generation outcome hfound => ?_, fun a ha => ?_⟩
  · rcases harrived with hnone | hsame
    · cases hnone.symm.trans hfound
    · obtain ⟨i, hi, hg, hbrought⟩ := h.arrived generation outcome (hsame.symm.trans hfound)
      exact ⟨i, hi, hg, hbrought.append [e]⟩
  · obtain ⟨i, hi, hg, hanswers⟩ := h.applied a ha
    exact ⟨i, hi, hg, hanswers.append [e]⟩

theorem Traced.issue (h : Traced first events k) (e : Event) (d : Dashboard) :
    Traced first (events ++ [e]) (k.issue d.refresh) := by
  -- The box of a new request is empty, whatever lay in the one before.
  have hempty : d.refresh.1.arrived? = none := by
    rw [refresh_eq]
    rfl
  have hmore := h.more e (.inl hempty)
  refine ⟨?_, fun generation outcome hfound => ?_, fun a ha => ?_⟩
  · intro t ht
    rcases List.mem_cons.mp ht with rfl | hold
    · exact ⟨_, List.mem_cons_self, rfl⟩
    · obtain ⟨i, hi, rfl⟩ := h.held t hold
      exact ⟨i, List.mem_cons_of_mem _ hi, rfl⟩
  · cases hempty.symm.trans hfound
  · obtain ⟨i, hi, hanswers⟩ := hmore.applied a ha
    exact ⟨i, List.mem_cons_of_mem _ hi, hanswers⟩

theorem Traced.unmount (h : Traced first events k) (e : Event) :
    Traced first (events ++ [e])
      { k with dashboard := k.dashboard.unmount, log := .unmounted :: k.log } := by
  have hempty : k.dashboard.unmount.arrived? = none := by
    rw [unmount_eq]
    rfl
  have hmore := h.more e (.inl hempty)
  exact ⟨hmore.held, hmore.arrived, hmore.applied⟩

theorem Traced.apply (h : Traced first events k) (e : Event) (outcome : FetchOutcome)
    (hanswers : ∃ i ∈ issuedIn k.log, i.1.generation = k.dashboard.generation ∧
      Answers first (events ++ [e]) i.1 outcome) :
    Traced first (events ++ [e])
      { k with
        dashboard := k.dashboard.settled outcome
        log := .applied k.dashboard.generation outcome :: k.log } := by
  have hempty : (k.dashboard.settled outcome).arrived? = none := by
    rw [arrived?, settled_inFlight]
    rfl
  have hmore := h.more e (.inl hempty)
  refine ⟨hmore.held, hmore.arrived, ?_⟩
  intro a ha
  rcases List.mem_cons.mp ha with rfl | ha
  · exact hanswers
  · exact hmore.applied a ha

/-- A ticket is used up. What it brings lies in the box, if that waits for it. -/
theorem Traced.use (h : Traced first events k) {e : Event} {d : Dashboard} (mail : Mailbox)
    (hbrought : Brought first (events ++ [e]) ticket outcome)
    (hmail : mail.outcome? = some outcome)
    (hbox : k.dashboard.Expects ticket.generation → d = k.dashboard.mailed mail)
    (hnone : ¬ k.dashboard.Expects ticket.generation → d = k.dashboard) (out : ticket ∈ k.held) :
    Traced first (events ++ [e]) { k with dashboard := d, held := k.held.erase ticket } := by
  have hmore := h.more e (.inr (Eq.refl k.dashboard.arrived?))
  have hheld : ∀ t ∈ k.held.erase ticket, ∃ i ∈ issuedIn k.log, i.1 = t :=
    fun t ht => h.held t (List.mem_of_mem_erase ht)
  by_cases hexpects : k.dashboard.Expects ticket.generation
  · obtain rfl := hbox hexpects
    refine ⟨hheld, fun generation outcome' hfound => ?_, hmore.applied⟩
    obtain ⟨i, hi, rfl⟩ := h.held ticket out
    cases (arrived_mailed hexpects hmail).symm.trans hfound
    exact ⟨i, hi, rfl, hbrought⟩
  · obtain rfl := hnone hexpects
    exact ⟨hheld, hmore.arrived, hmore.applied⟩

theorem Traced.poll (h : Traced first events k) (hlinked : k.Linked) :
    Traced first (events ++ [.poll]) (k.step .poll) := by
  rw [step]
  cases harrived : k.dashboard.arrived? with
  | none =>
      simp only [poll_of_none harrived]
      exact h.more .poll (.inr rfl)
  | some found =>
      obtain ⟨generation, outcome⟩ := found
      obtain ⟨i, hi, hg, hbrought⟩ := h.arrived generation outcome harrived
      obtain ⟨rfl, -⟩ := arrived_linked hlinked harrived
      simp only [poll_linked hlinked harrived]
      exact h.apply .poll outcome ⟨i, hi, hg, .inl (hbrought.append [.poll])⟩

section Now

variable (hk : first.run events = k)
include hk

theorem brought_now {e : Event} (hbrings : e.brings? = some (ticket, outcome))
    (out : ticket ∈ k.held) : Brought first (events ++ [e]) ticket outcome :=
  ⟨events, e, [], rfl, hbrings, hk ▸ out⟩

theorem Traced.complete (h : Traced first events k) (hlogged : k.Logged) (generation : Nat)
    (outcome : FetchOutcome) :
    Traced first (events ++ [.complete generation outcome])
      (k.step (.complete generation outcome)) := by
  have hcomplete := k.dashboard.complete_eq generation outcome
  by_cases hnow : generation = k.dashboard.generation ∧ k.dashboard.phase = .loading
  · rw [if_pos hnow] at hcomplete
    rw [Scene.step, hcomplete, hnow.1]
    obtain ⟨i, hi, hg, -⟩ := hlogged.awaited_scope hnow.2
    refine h.apply _ outcome ⟨i, hi, hg, .inr ⟨events, [], ?_, ?_⟩⟩
    · rw [hg]
    · rw [hk, hg, ← hnow.1, hcomplete]
  · rw [if_neg hnow] at hcomplete
    rw [Scene.step, hcomplete]
    exact h.more _ (.inr rfl)

theorem Traced.step (h : Traced first events k) (hlinked : k.Linked) (hlogged : k.Logged)
    (e : Event) : Traced first (events ++ [e]) (k.step e) := by
  cases e with
  | refresh => exact h.issue .refresh k.dashboard
  | navigate route =>
      rw [Scene.step, navigate_eq]
      by_cases hstay : route = k.dashboard.route ∧ k.dashboard.phase ≠ .idle
      · rw [if_pos hstay]
        exact h.more _ (.inr rfl)
      · rw [if_neg hstay]
        exact h.issue (.navigate route) (k.dashboard.moved route)
  | unmount => exact h.unmount .unmount
  | complete generation outcome => exact h.complete hk hlogged generation outcome
  | poll => exact h.poll hlinked
  | setQuery | setFilter | cycleFilter | toggle => exact h.more _ (.inr rfl)
  | setAllExpanded expanded => exact h.more _ (.inr (arrived_setAllExpanded _ expanded))
  | track generation task => exact h.more _ (.inr (arrived_track _ generation task))
  | send ticket outcome =>
      rw [Scene.step]
      by_cases out : ticket ∈ k.held
      · rw [if_pos out]
        refine h.use (.delivered outcome) (brought_now hk rfl out) rfl ?_ ?_ out
        · exact fun hbox => congrArg Prod.fst (deliver_of_expects hbox outcome)
        · exact fun hbox => congrArg Prod.fst (deliver_of_not_expects hbox outcome)
      · rw [if_neg out]
        exact h.more _ (.inr rfl)
  | drop ticket =>
      rw [Scene.step]
      by_cases out : ticket ∈ k.held
      · rw [if_pos out]
        exact h.use .abandoned (brought_now hk rfl out) rfl abandon_of_expects
          abandon_of_not_expects out
      · rw [if_neg out]
        exact h.more _ (.inr rfl)

end Now

theorem traced_after (route : Route) (threshold : Binary64) (events : List Event) :
    Traced (start route threshold) events (after route threshold events) := by
  induction events using List.reverseRecOn with
  | nil => exact traced_start route threshold
  | append_singleton events e ih =>
      have hlinked := linked_after route threshold events
      have hlogged := logged_after route threshold events
      have hstep := ih.step rfl hlinked hlogged e
      rwa [← run_singleton, ← run_append] at hstep

end Traced

theorem Effect.generation_le {k k' : Scene} (e : Effect k k') :
    k'.dashboard.generation ≤ k.dashboard.generation + 1 := by
  cases e with
  | issued hd =>
      simp only [issue, refresh_eq, generation_of_moved hd, Nat.le_refl]
  | unmounted => simp only [unmount_eq, Nat.le_refl]
  | applied outcome hloading =>
      rw [settled_generation]
      exact Nat.le_succ _
  | nothing | narrowed | unfolded | registered | mailed | wasted => exact Nat.le_succ _

/-- A generation counts no more than the events, so a counter of 64 bits holds it as long as there
are fewer than `2 ^ 64` of them. -/
theorem generation_run_le {k : Scene} (h : k.Linked) (events : List Event) :
    (k.run events).dashboard.generation ≤ k.dashboard.generation + events.length := by
  induction events generalizing k with
  | nil => exact Nat.le_refl _
  | cons e events ih =>
      have he := effect_step h e
      have hrest := ih (h.effect he)
      have hstep := he.generation_le
      rw [run, List.foldl_cons, List.length_cons, ← run]
      omega

theorem complete_taken_iff {k : Scene} (h : k.Logged) (generation : Nat)
    (outcome : FetchOutcome) :
    (k.dashboard.complete generation outcome).2 = true ↔ Awaited k.log generation := by
  rw [h.awaited_iff, complete_eq]
  split
  · next hnow => simp [hnow]
  · next hnow => simpa using fun hloading hg => hnow ⟨hg, hloading⟩

/-- The latest request wins: what the log of a run and the scene after it have to do with each
other and with what was sent. -/
structure LatestWins (first : Scene) (events : List Event) (k : Scene) : Prop where
  /-- Every ticket is of a later generation than the ones before. -/
  issued_decrease : (issuedIn k.log).Pairwise fun later earlier =>
    earlier.1.generation < later.1.generation
  /-- A ticket asks for what the dashboard showed when it was issued. -/
  issued_scope : ∀ i ∈ issuedIn k.log, i.1.scope = i.2.scope
  complete_iff : ∀ generation outcome,
    (k.dashboard.complete generation outcome).2 = true ↔ Awaited k.log generation
  complete_refused : ∀ generation outcome, ¬ Awaited k.log generation →
    k.dashboard.complete generation outcome = (k.dashboard, false)
  /-- A look takes nothing but what was brought on the ticket that is waited for. -/
  poll_cases : k.dashboard.poll = (k.dashboard, false) ∨
    ∃ i ∈ issuedIn k.log, ∃ outcome, Awaited k.log i.1.generation ∧
      Brought first events i.1 outcome ∧
      k.dashboard.poll = k.dashboard.complete i.1.generation outcome
  only_awaited : OnlyAwaited k.log
  /-- So nothing is applied twice for a ticket, nor after a later one. -/
  applied_decrease : (appliedIn k.log).Pairwise fun later earlier => earlier.1 < later.1
  /-- What was applied for a ticket was brought on this one, or handed in for it. -/
  applied_answers : ∀ a ∈ appliedIn k.log,
    ∃ i ∈ issuedIn k.log, i.1.generation = a.1 ∧ Answers first events i.1 a.2
  /-- A snapshot that is held was applied last, and answers a ticket that asked for the present
  route. -/
  snapshot_latest : ∀ s, k.dashboard.snapshot = some s →
    ∃ i ∈ issuedIn k.log, (appliedIn k.log).head? = some (i.1.generation, .ok s) ∧
      i.1.scope = k.dashboard.route.scope ∧ Answers first events i.1 (.ok s)

theorem poll_traced {first : Scene} {events : List Event} {k : Scene}
    (h : Traced first events k) (hlinked : k.Linked) (hlogged : k.Logged) :
    k.dashboard.poll = (k.dashboard, false) ∨
      ∃ i ∈ issuedIn k.log, ∃ outcome, Awaited k.log i.1.generation ∧
        Brought first events i.1 outcome ∧
        k.dashboard.poll = k.dashboard.complete i.1.generation outcome := by
  cases harrived : k.dashboard.arrived? with
  | none => exact .inl (poll_of_none harrived)
  | some found =>
      obtain ⟨generation, outcome⟩ := found
      have hnow := arrived_linked hlinked harrived
      obtain ⟨i, hi, rfl, hbrought⟩ := h.arrived generation outcome harrived
      have hawaited := (hlogged.awaited_iff i.1.generation).mpr hnow.symm
      refine .inr ⟨i, hi, outcome, hawaited, hbrought, ?_⟩
      rw [poll_linked hlinked harrived, complete_eq, if_pos hnow]

theorem snapshot_traced {first : Scene} {events : List Event} {k : Scene}
    (h : Traced first events k) (hlogged : k.Logged) {s : Snapshot}
    (hs : k.dashboard.snapshot = some s) :
    ∃ i ∈ issuedIn k.log, (appliedIn k.log).head? = some (i.1.generation, .ok s) ∧
      i.1.scope = k.dashboard.route.scope ∧ Answers first events i.1 (.ok s) := by
  obtain ⟨generation, hlast, i, hi, rfl, hscope⟩ := hlogged.snapshot_latest s hs
  obtain ⟨j, hj, hg, hanswers⟩ := h.applied _ (List.mem_of_head? hlast)
  obtain rfl := hlogged.issued_inj hi hj hg.symm
  exact ⟨i, hi, hlast, hscope, hanswers⟩

theorem latest_request_wins (route : Route) (threshold : Binary64) (events : List Event) :
    LatestWins (start route threshold) events (after route threshold events) ∧
      (after route threshold events).dashboard.generation ≤ events.length := by
  have hlinked := linked_after route threshold events
  have h := logged_after route threshold events
  have htraced := traced_after route threshold events
  refine ⟨?_, ?_⟩
  · generalize after route threshold events = k at hlinked h htraced
    refine ⟨h.issued_decrease, h.issued_scope, complete_taken_iff h, ?_,
      poll_traced htraced hlinked h, h.only_awaited, h.applied_decrease, htraced.applied,
      fun s => snapshot_traced htraced h⟩
    intro generation outcome hnot
    rw [complete_eq, if_neg]
    exact fun hnow => hnot ((h.awaited_iff generation).mpr hnow.symm)
  · have hle := generation_run_le (linked_start route threshold) events
    change _ ≤ 0 + events.length at hle
    rwa [Nat.zero_add] at hle

/-- The route changes while namespace a is loaded, and both tickets are sent, the old one first.
What is shown was sent on the ticket for the new route, and nothing is taken for the old one. -/
theorem latest_request_wins_sent :
    let old : Snapshot := ⟨.only "a", [{}], "", .epoch⟩
    let new : Snapshot := ⟨.all, [], "", .epoch⟩
    let events : List Event := [.refresh, .navigate .all, .send ⟨1, .only "a"⟩ (.ok old),
      .send ⟨2, .all⟩ (.ok new), .poll]
    let k := after (.only "a") Search.defaultThreshold events
    k.dashboard.snapshot = some new ∧ appliedIn k.log = [(2, .ok new)] ∧
      Answers (start (.only "a") Search.defaultThreshold) events ⟨2, .all⟩ (.ok new) ∧
      k.dashboard.complete 1 (.ok old) = (k.dashboard, false) := by
  intro old new events k
  have hshown : k.dashboard.snapshot = some new := rfl
  have hissued : issuedIn k.log = [(⟨2, .all⟩, .all), (⟨1, .only "a"⟩, .only "a")] := rfl
  have h := (latest_request_wins (.only "a") Search.defaultThreshold events).1
  refine ⟨hshown, rfl, ?_, h.complete_refused 1 _ ?_⟩
  · obtain ⟨i, hi, -, hscope, hanswers⟩ := h.snapshot_latest new hshown
    -- Only the second ticket asks for the route that is shown now.
    rw [hissued] at hi
    rcases List.mem_pair.mp hi with rfl | rfl
    · exact hanswers
    · cases hscope
  · change ¬ (2 ≠ 1 ∧ 2 = 1)
    decide

end Scene

end WaybillBoard.Dashboard
