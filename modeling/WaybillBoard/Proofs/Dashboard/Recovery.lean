import WaybillBoard.Proofs.Dashboard.Landing
import WaybillBoard.Proofs.Dashboard.Linked

/-!
Recovery. Fetches that end in an error, are dropped or are superseded keep what the user chose, so
the first one that brings a snapshot shows what it would have shown without them.
-/

namespace WaybillBoard.Dashboard

/-- What the user chose; all else comes from fetches. -/
structure Choices where
  route : Route
  threshold : Binary64
  query : String
  filter : OutcomeFilter
  expansion : Expansion

def choices (d : Dashboard) : Choices := ⟨d.route, d.threshold, d.query, d.filter, d.expansion⟩

def Choices.adjust (c : Choices) : Event → Choices
  | .setQuery query => { c with query }
  | .setFilter filter => { c with filter }
  | .cycleFilter => { c with filter := c.filter.next }
  | .toggle ns =>
    let expanded := (c.expansion.get? ns).getD (c.route.mode = .single)
    { c with expansion := c.expansion.set ns !expanded }
  | _ => c

theorem Choices.foldl_adjust_filter (c : Choices) (events : List Event) :
    (events.filter Event.adjusts).foldl adjust c = events.foldl adjust c := by
  rw [List.foldl_filter]
  congr 1
  funext c e
  cases e <;> rfl

theorem Choices.adjust_of_not (c : Choices) {e : Event} (h : e.adjusts = false) :
    c.adjust e = c := by
  cases e with
  | setQuery | setFilter | cycleFilter | toggle => cases h
  | _ => rfl

/-- Events of a user who stays on a route and asks for it until it comes. -/
def Event.Retries : Event → Prop
  | .navigate _ | .unmount | .setAllExpanded _ => False
  | _ => True

def Event.isRefresh : Event → Bool
  | .refresh => true
  | _ => false

theorem Event.not_isRefresh {e : Event} (h : e.adjusts = true) : e.isRefresh = false := by
  cases e with
  | refresh => cases h
  | _ => rfl

def Entry.landed? : Entry → Option Snapshot
  | .applied _ (.ok s) => some s
  | _ => none

/-- The snapshots that were taken, the latest first. -/
def landedIn (log : List Entry) : List Snapshot := log.filterMap Entry.landed?

/-- A snapshot is shown as the choices say, wherever they come from. -/
theorem settled_eq_of_choices {a b : Dashboard} (h : a.choices = b.choices) (s : Snapshot) :
    a.settled (.ok s) =
      { b.settled (.ok s) with generation := a.generation, aborted := a.aborted } := by
  obtain ⟨hroute, hthreshold, hquery, hfilter, hexpansion⟩ := Choices.mk.inj h
  simp only [settled, display, updateVisible, hroute, hthreshold, hquery, hfilter, hexpansion]

/-- Alike but for the count of fetches and the tasks that were aborted. -/
def Like (a b : Dashboard) : Prop := ∃ generation aborted, a = { b with generation, aborted }

namespace Scene

/-- Only an outcome that is taken lands. -/
theorem Effect.landed {k k' : Scene} (e : Effect k k') :
    landedIn k'.log = landedIn k.log ∨
      ∃ s, k'.dashboard = k.dashboard.settled (.ok s) ∧ landedIn k'.log = s :: landedIn k.log := by
  cases e with
  | applied outcome hloading =>
      cases outcome with
      | error e => exact .inl rfl
      | ok s => exact .inr ⟨s, rfl, rfl⟩
  | nothing | narrowed | unfolded | registered | issued | unmounted | mailed | wasted =>
      exact .inl rfl

theorem settled_of_landed {k : Scene} (h : k.Linked) {e : Event} {s : Snapshot}
    (hlands : landedIn (k.step e).log = s :: landedIn k.log) :
    (k.step e).dashboard = k.dashboard.settled (.ok s) := by
  rcases (effect_step h e).landed with hsame | ⟨s', hsettled, hlog⟩
  · exact absurd (hlands.symm.trans hsame) (List.cons_ne_self s _)
  · rw [hsettled, (List.cons.inj (hlands.symm.trans hlog)).1]

theorem landed_suffix {k : Scene} (h : k.Linked) (events : List Event) :
    landedIn k.log <:+ landedIn (k.run events).log := by
  induction events generalizing k with
  | nil => exact List.suffix_refl _
  | cons e events ih =>
      have he := effect_step h e
      have hrest := ih (h.effect he)
      rcases he.landed with heq | ⟨s, -, heq⟩
      · rwa [heq] at hrest
      · rw [heq] at hrest
        exact (List.suffix_cons s _).trans hrest

/-- A retry that adjusts nothing asks again, takes an outcome, or is about the fetch in flight. -/
theorem retry_cases {k : Scene} (h : k.Linked) {e : Event} (hretries : e.Retries)
    (hnot : e.adjusts = false) :
    e = .refresh ∨
      e.isRefresh = false ∧
        ((∃ inFlight aborted, (k.step e).dashboard = { k.dashboard with inFlight, aborted }) ∨
          ∃ outcome, k.dashboard.phase = .loading ∧
            (k.step e).dashboard = k.dashboard.settled outcome ∧
            (k.step e).log = .applied k.dashboard.generation outcome :: k.log) := by
  cases e with
  | navigate | unmount | setAllExpanded => exact hretries.elim
  | setQuery | setFilter | cycleFilter | toggle => cases hnot
  | refresh => exact .inl rfl
  | complete generation outcome =>
      refine .inr ⟨rfl, ?_⟩
      rw [step, complete_eq]
      by_cases hnow : generation = k.dashboard.generation ∧ k.dashboard.phase = .loading
      · rw [if_pos hnow, hnow.1]
        exact .inr ⟨outcome, hnow.2, rfl, rfl⟩
      · rw [if_neg hnow]
        exact .inl ⟨_, _, rfl⟩
  | poll =>
      refine .inr ⟨rfl, ?_⟩
      rw [step]
      cases harrived : k.dashboard.arrived? with
      | none =>
          simp only [poll_of_none harrived]
          exact .inl ⟨_, _, rfl⟩
      | some found =>
          obtain ⟨generation, outcome⟩ := found
          obtain ⟨rfl, hloading⟩ := arrived_linked h harrived
          simp only [poll_linked h harrived]
          exact .inr ⟨outcome, hloading, rfl, rfl⟩
  | track generation task =>
      obtain ⟨aborted, heq⟩ := track_eq k.dashboard generation task
      exact .inr ⟨rfl, .inl ⟨_, aborted, heq⟩⟩
  | send ticket outcome =>
      refine .inr ⟨rfl, .inl ?_⟩
      rw [step]
      split
      · obtain ⟨inFlight, heq⟩ := (show Used k.dashboard ticket _ from .sent outcome).eq
        exact ⟨inFlight, k.dashboard.aborted, heq⟩
      · exact ⟨_, _, rfl⟩
  | drop ticket =>
      refine .inr ⟨rfl, .inl ?_⟩
      rw [step]
      split
      · obtain ⟨inFlight, heq⟩ := (show Used k.dashboard ticket _ from .dropped).eq
        exact ⟨inFlight, k.dashboard.aborted, heq⟩
      · exact ⟨_, _, rfl⟩

theorem step_refresh (k : Scene) :
    (k.step .refresh).dashboard.generation = k.dashboard.generation + 1 ∧
      (k.step .refresh).dashboard.phase = .loading ∧
      (k.step .refresh).dashboard.choices = k.dashboard.choices := by
  rw [step, issue, refresh_eq]
  exact ⟨rfl, rfl, rfl⟩

theorem choices_adjust (k : Scene) {e : Event} (h : e.adjusts = true) :
    (k.step e).dashboard.choices = k.dashboard.choices.adjust e := by
  cases e with
  | setQuery | setFilter | cycleFilter | toggle => rfl
  | _ => cases h

/-- While nothing lands, only adjustments change the choices. -/
theorem choices_step {k : Scene} (h : k.Linked) {e : Event} (hretries : e.Retries)
    (hlanded : landedIn (k.step e).log = landedIn k.log) :
    (k.step e).dashboard.choices = k.dashboard.choices.adjust e := by
  cases hadjusts : e.adjusts with
  | true => exact choices_adjust k hadjusts
  | false =>
      rw [Choices.adjust_of_not _ hadjusts]
      rcases retry_cases h hretries hadjusts with
        rfl | ⟨-, ⟨inFlight, aborted, heq⟩ | ⟨outcome, -, heq, hlog⟩⟩
      · exact (step_refresh k).2.2
      · rw [heq]
        rfl
      · rw [heq]
        cases outcome with
        | error e => rfl
        | ok s =>
            rw [hlog] at hlanded
            exact absurd hlanded (List.cons_ne_self s _)

theorem generation_step {k : Scene} (h : k.Linked) {e : Event} (hretries : e.Retries) :
    (k.step e).dashboard.generation = k.dashboard.generation + if e.isRefresh then 1 else 0 := by
  cases hadjusts : e.adjusts with
  | true =>
      rw [(adjust_keeps k hadjusts).1, Event.not_isRefresh hadjusts]
      rfl
  | false =>
      rcases retry_cases h hretries hadjusts with
        rfl | ⟨hnot, ⟨inFlight, aborted, heq⟩ | ⟨outcome, -, heq, -⟩⟩
      · exact (step_refresh k).1
      · rw [heq, hnot]
        rfl
      · rw [heq, hnot]
        exact settled_generation k.dashboard outcome

/-- Once the last fetch has ended, nothing but adjustments changes what is shown. -/
theorem step_ended {k : Scene} (h : k.Linked) (hended : k.dashboard.phase ≠ .loading) {e : Event}
    (hretries : e.Retries) (hlast : e.isRefresh = false) (hnot : e.adjusts = false) :
    ∃ aborted, (k.step e).dashboard = { k.dashboard with aborted } := by
  rcases retry_cases h hretries hnot with
    rfl | ⟨-, ⟨inFlight, aborted, heq⟩ | ⟨outcome, hloading, -⟩⟩
  · cases hlast
  · refine ⟨aborted, ?_⟩
    -- Neither before nor after is there a fetch in flight.
    have hbefore := Option.not_isSome_iff_eq_none.mp (mt h.loading_iff.mpr hended)
    have hlinked := (h.effect (effect_step h e)).loading_iff
    rw [heq] at hlinked
    have hafter : inFlight = none := Option.not_isSome_iff_eq_none.mp (mt hlinked.mpr hended)
    rw [hafter, ← hbefore] at heq
    exact heq
  · exact absurd hloading hended

theorem choices_run {k : Scene} (h : k.Linked) {events : List Event}
    (hretries : ∀ e ∈ events, e.Retries)
    (hlanded : landedIn (k.run events).log = landedIn k.log) :
    (k.run events).dashboard.choices = events.foldl Choices.adjust k.dashboard.choices := by
  induction events generalizing k with
  | nil => rfl
  | cons e events ih =>
      obtain ⟨he, hevents⟩ := List.forall_mem_cons.mp hretries
      have hlinked := h.effect (effect_step h e)
      -- What had landed by now is between what had landed at first and in the end.
      have hnow : landedIn (k.step e).log = landedIn k.log := by
        have hfirst := landed_suffix h [e]
        have hlast := landed_suffix hlinked events
        rw [← run_cons, hlanded] at hlast
        exact hlast.eq_of_length_le hfirst.length_le
      have hrest := ih hlinked hevents (hlanded.trans hnow.symm)
      rw [choices_step h he hnow] at hrest
      exact hrest

theorem generation_run {k : Scene} (h : k.Linked) {events : List Event}
    (hretries : ∀ e ∈ events, e.Retries) :
    (k.run events).dashboard.generation =
      k.dashboard.generation + events.countP Event.isRefresh := by
  induction events generalizing k with
  | nil => rfl
  | cons e events ih =>
      obtain ⟨he, hevents⟩ := List.forall_mem_cons.mp hretries
      have hrest := ih (h.effect (effect_step h e)) hevents
      rw [generation_step h he] at hrest
      rw [run_cons, hrest, List.countP_cons]
      omega

/-- A run in which no fetch brings anything until the one that is asked for after `before`. -/
structure Recovers (k : Scene) (before between : List Event) (land : Event) (later : List Event)
    (s : Snapshot) : Prop where
  retries : ∀ e ∈ before ++ between ++ later, e.Retries
  last : ∀ e ∈ between ++ later, e.isRefresh = false
  failed : landedIn (k.run (before ++ .refresh :: between)).log = landedIn k.log
  lands : landedIn ((k.run (before ++ .refresh :: between)).step land).log = s :: landedIn k.log

/-- The snapshot has landed, without the fetches that brought nothing before it. -/
def straight (k : Scene) (before between : List Event) (s : Snapshot) : Scene :=
  (k.run (before.filter Event.adjusts ++ .refresh :: between.filter Event.adjusts)).step
    (.complete (k.dashboard.generation + 1) (.ok s))

section Recovers

variable {k : Scene} {before between later : List Event} {land : Event} {s : Snapshot}

theorem Recovers.retries_before (h : Recovers k before between land later s) :
    ∀ e ∈ before ++ .refresh :: between, e.Retries := by
  simp only [List.forall_mem_append, List.forall_mem_cons]
  exact ⟨fun e he => h.retries e (by simp [he]), trivial, fun e he => h.retries e (by simp [he])⟩

theorem Recovers.retries_later (h : Recovers k before between land later s) :
    ∀ e ∈ later, e.Retries :=
  fun e he => h.retries e (List.mem_append_right _ he)

theorem Recovers.settled (h : Recovers k before between land later s) (hlinked : k.Linked) :
    ((k.run (before ++ .refresh :: between)).step land).dashboard =
      (k.run (before ++ .refresh :: between)).dashboard.settled (.ok s) :=
  settled_of_landed (hlinked.run _) (h.lands.trans (congrArg _ h.failed.symm))

theorem Recovers.generation (h : Recovers k before between land later s) (hlinked : k.Linked) :
    (((k.run (before ++ .refresh :: between)).step land).run later).dashboard.generation =
      k.dashboard.generation + 1 + before.countP Event.isRefresh := by
  have hlinked' := hlinked.run (before ++ .refresh :: between)
  have hbetween : between.countP Event.isRefresh = 0 :=
    List.countP_eq_zero.mpr fun e he => by simp [h.last e (List.mem_append_left later he)]
  have hlater : later.countP Event.isRefresh = 0 :=
    List.countP_eq_zero.mpr fun e he => by simp [h.last e (List.mem_append_right between he)]
  have hrefresh : Event.isRefresh .refresh = true := rfl
  rw [generation_run (hlinked'.effect (effect_step hlinked' land)) h.retries_later,
    h.settled hlinked, settled_generation, generation_run hlinked h.retries_before,
    List.countP_append, List.countP_cons_of_pos hrefresh, hbetween, hlater]
  omega

end Recovers

theorem adjust_run (k : Scene) {events : List Event} (h : ∀ e ∈ events, e.adjusts = true) :
    (k.run events).dashboard.generation = k.dashboard.generation ∧
      (k.run events).dashboard.phase = k.dashboard.phase ∧
      (k.run events).dashboard.snapshot = k.dashboard.snapshot ∧
      (k.run events).dashboard.choices = events.foldl Choices.adjust k.dashboard.choices := by
  induction events generalizing k with
  | nil => exact ⟨rfl, rfl, rfl, rfl⟩
  | cons e events ih =>
      obtain ⟨he, hevents⟩ := List.forall_mem_cons.mp h
      obtain ⟨hgeneration, hphase, hsnapshot⟩ := adjust_keeps k he
      have hrest := ih (k.step e) hevents
      rw [hgeneration, hphase, hsnapshot, choices_adjust k he] at hrest
      exact hrest

theorem adjusts_of_filter (events : List Event) :
    ∀ e ∈ events.filter Event.adjusts, e.adjusts = true := fun _ he => (List.mem_filter.mp he).2

/-- The straight run has asked once, with the same choices, when its snapshot lands. -/
theorem straight_before (k : Scene) (before between : List Event) :
    let d := (k.run (before.filter Event.adjusts ++
      .refresh :: between.filter Event.adjusts)).dashboard
    d.generation = k.dashboard.generation + 1 ∧ d.phase = .loading ∧
      d.choices = (before ++ .refresh :: between).foldl Choices.adjust k.dashboard.choices := by
  have hfirst := adjust_run k (adjusts_of_filter before)
  have hthen := adjust_run ((k.run (before.filter Event.adjusts)).step .refresh)
    (adjusts_of_filter between)
  rw [Choices.foldl_adjust_filter] at hfirst hthen
  obtain ⟨hgeneration, hphase, hchoices⟩ := step_refresh (k.run (before.filter Event.adjusts))
  rw [hgeneration, hphase, hchoices, hfirst.1, hfirst.2.2.2] at hthen
  rw [run_append, List.foldl_append]
  exact ⟨hthen.1, hthen.2.1, hthen.2.2.2⟩

/-- The straight run takes its snapshot, and shows it as the choices of both runs say. -/
theorem straight_land (k : Scene) (before between : List Event) (s : Snapshot) :
    let d := (k.straight before between s).dashboard
    d.generation = k.dashboard.generation + 1 ∧ d.phase = .ready ∧ d.snapshot = some s ∧
      ∀ a : Dashboard,
        a.choices = (before ++ .refresh :: between).foldl Choices.adjust k.dashboard.choices →
          Like (a.settled (.ok s)) d := by
  obtain ⟨hgeneration, hloading, hchoices⟩ := straight_before k before between
  rw [straight, ← hgeneration, step_land hloading]
  refine ⟨settled_generation _ _, rfl, rfl, ?_⟩
  intro a ha
  exact ⟨_, _, settled_eq_of_choices (ha.trans hchoices.symm) s⟩

theorem like_adjust {k k' : Scene} (h : Like k.dashboard k'.dashboard) {e : Event}
    (he : e.adjusts = true) : Like (k.step e).dashboard (k'.step e).dashboard := by
  obtain ⟨generation, aborted, heq⟩ := h
  cases e with
  | setQuery query => exact ⟨generation, aborted, congrArg (setQuery · query) heq⟩
  | setFilter filter => exact ⟨generation, aborted, congrArg (setFilter · filter) heq⟩
  | cycleFilter => exact ⟨generation, aborted, congrArg cycleFilter heq⟩
  | toggle ns => exact ⟨generation, aborted, congrArg (toggle · ns) heq⟩
  | _ => cases he

theorem like_run {k k' : Scene} (hlinked : k.Linked) (hended : k.dashboard.phase ≠ .loading)
    (h : Like k.dashboard k'.dashboard) {events : List Event}
    (hretries : ∀ e ∈ events, e.Retries) (hlast : ∀ e ∈ events, e.isRefresh = false) :
    Like (k.run events).dashboard (k'.run (events.filter Event.adjusts)).dashboard := by
  induction events generalizing k k' with
  | nil => exact h
  | cons e events ih =>
      obtain ⟨he, hevents⟩ := List.forall_mem_cons.mp hretries
      obtain ⟨hlast, hrest⟩ := List.forall_mem_cons.mp hlast
      have hlinked' := hlinked.effect (effect_step hlinked e)
      cases hadjusts : e.adjusts with
      | true =>
          rw [List.filter_cons_of_pos hadjusts]
          have hphase := (adjust_keeps k hadjusts).2.1
          exact ih hlinked' (hphase ▸ hended) (like_adjust h hadjusts) hevents hrest
      | false =>
          rw [List.filter_cons_of_neg (by simp [hadjusts])]
          obtain ⟨aborted, heq⟩ := step_ended hlinked hended he hlast hadjusts
          obtain ⟨generation, _, hlike⟩ := h
          refine ih hlinked' (by rw [heq]; exact hended) ⟨generation, aborted, ?_⟩ hevents hrest
          rw [heq, hlike]

/-- A failed fetch leaves no trace once one succeeds: the dashboard is the same as after the
straight run, but for the count of fetches and the tasks that were aborted. -/
theorem recovery_leaves_no_trace (route : Route) (threshold : Binary64) (events : List Event)
    {before between later : List Event} {land : Event} {s : Snapshot}
    (h : Recovers (after route threshold events) before between land later s) :
    let k := after route threshold events
    let a := (((k.run (before ++ .refresh :: between)).step land).run later).dashboard
    let b := ((k.straight before between s).run (later.filter Event.adjusts)).dashboard
    b.phase = .ready ∧ b.snapshot = some s ∧
      a = { b with
        generation := b.generation + before.countP Event.isRefresh, aborted := a.aborted } := by
  have hlinked := linked_after route threshold events
  generalize after route threshold events = k at h hlinked
  have hlinked' := hlinked.run (before ++ .refresh :: between)
  obtain ⟨hgeneration, hready, hsnapshot, hlike⟩ := straight_land k before between s
  obtain ⟨hsame, hphase, hheld, -⟩ :=
    adjust_run (k.straight before between s) (adjusts_of_filter later)
  refine ⟨hphase.trans hready, hheld.trans hsnapshot, ?_⟩
  have hlanded := hlike _ (choices_run hlinked h.retries_before h.failed)
  have hended := settled_phase_ne_loading (k.run (before ++ .refresh :: between)).dashboard (.ok s)
  rw [← h.settled hlinked] at hended hlanded
  obtain ⟨generation, aborted, heq⟩ := like_run (hlinked'.effect (effect_step hlinked' land))
    hended hlanded h.retries_later fun e he => h.last e (List.mem_append_right between he)
  have hcount := h.generation hlinked
  rw [← hgeneration, ← hsame, heq] at hcount
  change generation = _ at hcount
  rw [heq, hcount]

/-- One fetch fails, one is dropped and one is superseded with its answer in the mailbox. -/
theorem recovery_leaves_no_trace_retried :
    let waybill (ns : String) : Waybill := { identity := { namespaceName := ns } }
    let old : Snapshot := ⟨.all, [waybill "a", waybill "b"], "", .epoch⟩
    let new : Snapshot := ⟨.all, [waybill "b"], "", .epoch⟩
    let k := after .all Search.defaultThreshold [.refresh, .complete 1 (.ok old)]
    let before : List Event :=
      [.toggle "b", .refresh, .complete 2 (.error (.notFound "a")), .setQuery "b", .refresh,
        .drop ⟨3, .all⟩, .poll, .refresh, .send ⟨4, .all⟩ (.ok old)]
    let between : List Event := [.setFilter (.only .pending), .send ⟨5, .all⟩ (.ok new)]
    let a := (((k.run (before ++ .refresh :: between)).step .poll).run [.toggle "a"]).dashboard
    let b := ((k.straight before between new).run [.toggle "a"]).dashboard
    Recovers k before between .poll [.toggle "a"] new ∧
      a = { b with generation := b.generation + 3, aborted := a.aborted } := by
  intro waybill old new k before between a b
  have h : Recovers k before between .poll [.toggle "a"] new := by
    refine ⟨?_, ?_, ?_, ?_⟩
    · simp [before, between, Event.Retries]
    · simp [between, Event.isRefresh]
    · decide +kernel
    · decide +kernel
  have hcount : before.countP Event.isRefresh = 3 := rfl
  have hlike := (recovery_leaves_no_trace _ _ _ h).2.2
  rw [hcount] at hlike
  exact ⟨h, hlike⟩

end Scene

end WaybillBoard.Dashboard
