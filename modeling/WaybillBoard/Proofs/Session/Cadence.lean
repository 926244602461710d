import WaybillBoard.Proofs.Session.Timing

/-!
The cadence of automatic refreshes. The log of a run tells which tickets were issued at which
instants, and when the last one was resolved. What one event does to the timing goes with what it
adds to the log, and so the log of every run keeps automatic refreshes apart.
-/

namespace WaybillBoard

namespace Session

/-- A ticket that was issued. -/
structure Request where
  ticket : Ticket
  instant : Nat
  /-- Was it issued by a tick? -/
  automatic : Bool

/-- What a run tells about its fetches. -/
inductive Entry
  | issued (request : Request)
  /-- A tick has issued nothing. -/
  | passed (instant : Nat)
  /-- An outcome was taken, or everything was stopped. -/
  | resolved

namespace Entry

def request? : Entry → Option Request
  | .issued request => some request
  | _ => none

def instant? : Entry → Option Nat
  | .issued request => some request.instant
  | .passed instant => some instant
  | .resolved => none

/-- The ticket that is unresolved after an entry. -/
def leaves (unresolved : Option Ticket) : Entry → Option Ticket
  | .issued request => some request.ticket
  | .passed _ => unresolved
  | .resolved => none

end Entry

def requests (log : List Entry) : List Request := log.filterMap Entry.request?

def instants (log : List Entry) : List Nat := log.filterMap Entry.instant?

/-- The ticket that was issued last, unless it is resolved. -/
def unresolved? (log : List Entry) : Option Ticket := log.foldl Entry.leaves none

/-- The clock does not go back. -/
def Ordered (log : List Entry) : Prop := (instants log).Pairwise (· ≤ ·)

/-- A request that a tick makes comes at least the interval after any request before it. -/
def Apart (interval : Option Time.Period) (earlier later : Request) : Prop :=
  later.automatic → ∃ i, interval = some i ∧ earlier.instant + i.millis ≤ later.instant

namespace Scene

/-- The ticket of a new generation that an event puts into the queue. -/
def issued? (k : Scene) (e : Event) : Option Ticket :=
  if k.session.dashboard.generation < (k.step e).session.dashboard.generation then
    (k.step e).session.queued
  else none

/-- What an event adds to the log. -/
def logged? (k : Scene) (e : Event) : Option Entry :=
  match e with
  | .press _ now | .refresh now | .navigate _ now =>
    (k.issued? e).map fun ticket => .issued ⟨ticket, now, false⟩
  | .tick now =>
    match k.issued? e with
    | none => some (.passed now)
    | some ticket => some (.issued ⟨ticket, now, true⟩)
  | .poll => if k.session.poll.2 then some .resolved else none
  | .unmount => some .resolved
  | _ => none

def log (k : Scene) : List Event → List Entry
  | [] => []
  | e :: rest => (k.logged? e).toList ++ (k.step e).log rest

/-- The log of a session from its beginning, when it asks for its route. -/
def history (k : Scene) (events : List Event) : List Entry :=
  .issued ⟨k.session.awaited, k.session.lastRefresh, false⟩ :: k.log events

theorem log_append (k : Scene) (before later : List Event) :
    k.log (before ++ later) = k.log before ++ (k.run before).log later := by
  induction before generalizing k with
  | nil => rfl
  | cons e before ih =>
      calc (k.logged? e).toList ++ (k.step e).log (before ++ later)
        _ = (k.logged? e).toList ++
            ((k.step e).log before ++ ((k.step e).run before).log later) := by rw [ih]
        _ = k.log (e :: before) ++ (k.run (e :: before)).log later :=
            (List.append_assoc _ _ _).symm

theorem history_append (k : Scene) (before later : List Event) :
    k.history (before ++ later) = k.history before ++ (k.run before).log later :=
  congrArg (List.cons _) (k.log_append before later)

end Scene

/-- What an event does to the timing, with what it adds to the log. -/
inductive Timing.Move (t : Timing) : Option Entry → Timing → Prop
  | kept : Move t none t
  | passed (now : Nat) : Move t (some (.passed now)) t
  | asked {now : Nat} {automatic : Bool} (scope : Scope) (due : automatic → t.Due now) :
      Move t (some (.issued ⟨⟨t.generation + 1, scope⟩, now, automatic⟩)) (t.asked now scope)
  | taken : Move t none { t with queued := none }
  | landed {phase : Phase} (ended : phase ≠ .loading) :
      Move t (some .resolved) { t with phase }
  | unmounted : Move t (some .resolved)
      { t with generation := t.generation + 1, phase := .idle, queued := none }

namespace Scene

theorem issued?_of_timing {k : Scene} {e : Event} {t : Timing}
    (h : (k.step e).session.timing = t) :
    k.issued? e = if k.session.timing.generation < t.generation then t.queued else none := by
  subst h
  rfl

theorem issued?_of_same {k : Scene} {e : Event}
    (h : (k.step e).session.timing = k.session.timing) : k.issued? e = none := by
  rw [issued?_of_timing h, if_neg (Nat.lt_irrefl _)]

theorem issued?_of_asked {k : Scene} {e : Event} {now : Nat} {scope : Scope}
    (h : (k.step e).session.timing = k.session.timing.asked now scope) :
    k.issued? e = some ⟨k.session.dashboard.generation + 1, scope⟩ := by
  rw [issued?_of_timing h]
  exact if_pos (Nat.lt_succ_self _)

theorem move_of_next {k : Scene} {e : Event} {now : Nat}
    (h : k.session.timing.Next now (k.step e).session.timing) :
    k.session.timing.Move ((k.issued? e).map fun ticket => .issued ⟨ticket, now, false⟩)
      (k.step e).session.timing := by
  generalize htiming : (k.step e).session.timing = t at h
  cases h with
  | kept =>
      rw [issued?_of_same htiming]
      exact .kept
  | asked scope =>
      rw [issued?_of_asked htiming]
      exact .asked scope Bool.noConfusion

theorem enter_self (k : Scene) : k.enter k.session = k := by
  rw [enter, if_pos rfl]

theorem step_tick_of_due {k : Scene} {now : Nat} (h : k.session.timing.Due now) :
    k.step (.tick now) = k.enter (k.session.refresh now) := by
  rw [step, tick, if_pos ((isDue_iff _ _).mpr h)]

theorem step_tick_of_not_due {k : Scene} {now : Nat} (h : ¬ k.session.timing.Due now) :
    k.step (.tick now) = k := by
  rw [step, tick, if_neg (mt (isDue_iff _ _).mp h), enter_self]

theorem timing_tick_of_due {k : Scene} {now : Nat} (h : k.session.timing.Due now) :
    (k.step (.tick now)).session.timing =
      k.session.timing.asked now k.session.dashboard.route.scope := by
  rw [step_tick_of_due h]
  exact timing_refresh k.session now

theorem issued?_tick_of_due {k : Scene} {now : Nat} (h : k.session.timing.Due now) :
    k.issued? (.tick now) =
      some ⟨k.session.dashboard.generation + 1, k.session.dashboard.route.scope⟩ :=
  issued?_of_asked (timing_tick_of_due h)

theorem issued?_tick_of_not_due {k : Scene} {now : Nat} (h : ¬ k.session.timing.Due now) :
    k.issued? (.tick now) = none := by
  apply issued?_of_same
  rw [step_tick_of_not_due h]

theorem move_tick (k : Scene) (now : Nat) :
    k.session.timing.Move (k.logged? (.tick now)) (k.step (.tick now)).session.timing := by
  by_cases hdue : k.session.timing.Due now
  · simp only [logged?, issued?_tick_of_due hdue]
    rw [timing_tick_of_due hdue]
    exact .asked _ fun _ => hdue
  · simp only [logged?, issued?_tick_of_not_due hdue]
    rw [step_tick_of_not_due hdue]
    exact .passed now

theorem move_poll (k : Scene) :
    k.session.timing.Move (k.logged? .poll) (k.step .poll).session.timing := by
  have htiming : (k.step .poll).session.timing = _ := timing_poll k.session
  have hphase := k.session.dashboard.poll_phase
  rw [htiming, logged?, poll_changed]
  by_cases hchanged : k.session.dashboard.poll.2 = true
  · rw [if_pos hchanged] at hphase ⊢
    exact .landed hphase
  · rw [if_neg hchanged] at hphase ⊢
    rw [hphase]
    exact .kept

theorem move_step (k : Scene) (e : Event) :
    k.session.timing.Move (k.logged? e) (k.step e).session.timing := by
  cases e with
  | press p now => exact move_of_next (next_press k.session p now)
  | refresh now => exact move_of_next (next_refresh k.session now)
  | navigate route now => exact move_of_next (next_navigate k.session route now)
  | tick now => exact move_tick k now
  | poll => exact move_poll k
  | turnWheel w =>
      cases w with
      | up => exact .kept
      | down =>
          change k.session.timing.Move none (k.session.selectNext 1).timing
          rw [timing_selectNext]
          exact .kept
  | say | expire | draw => exact .kept
  | take => exact .taken
  | track generation task =>
      obtain ⟨aborted, heq⟩ := Dashboard.track_eq k.session.dashboard generation task
      simp only [step, enter, heq]
      exact .kept
  | unmount =>
      simp only [step, enter, Session.unmount, Dashboard.unmount_eq]
      exact .unmounted
  | send ticket outcome =>
      by_cases out : ticket ∈ k.taken
      · simp only [step, if_pos out, timing_used (.sent outcome)]
        exact .kept
      · simp only [step, if_neg out]
        exact .kept
  | drop ticket =>
      by_cases out : ticket ∈ k.taken
      · simp only [step, if_pos out, timing_used .dropped]
        exact .kept
      · simp only [step, if_neg out]
        exact .kept

/-- A navigation that issues no ticket goes nowhere. -/
theorem step_navigate_of_not_issued {k : Scene} {route : Route} {now : Nat}
    (h : k.issued? (.navigate route now) = none) : k.step (.navigate route now) = k := by
  by_cases hstay : route = k.session.dashboard.route ∧ k.session.dashboard.phase ≠ .idle
  · rw [step, navigate_of_stay hstay, enter_self]
  · have hasked : (k.step (.navigate route now)).session.timing = _ := timing_navigate hstay now
    rw [issued?_of_asked hasked] at h
    cases h

/-- The log misses no ticket that is issued. -/
theorem issued?_eq_logged (k : Scene) (e : Event) :
    k.issued? e = ((k.logged? e).bind Entry.request?).map Request.ticket := by
  have hmove := k.move_step e
  generalize k.logged? e = entry at hmove ⊢
  generalize htiming : (k.step e).session.timing = t at hmove
  cases hmove with
  | kept | passed => exact issued?_of_same htiming
  | asked scope due => exact issued?_of_asked htiming
  | taken | landed =>
      rw [issued?_of_timing htiming]
      exact if_neg (Nat.lt_irrefl _)
  | unmounted =>
      rw [issued?_of_timing htiming]
      exact if_pos (Nat.lt_succ_self _)

end Scene

/-- What the log of a run and the timing after it have to do with each other. -/
structure Recorded (interval : Option Time.Period) (t : Timing) (log : List Entry) : Prop where
  interval_eq : t.interval = interval
  last : ∃ earlier r, requests log = earlier ++ [r] ∧ r.instant = t.lastRefresh
  apart : (requests log).Pairwise (Apart interval)
  loading : (unresolved? log).isSome → t.phase = .loading

section Logs

variable {interval : Option Time.Period} {t t' : Timing} {log later : List Entry}

theorem Ordered.of_append (h : Ordered (log ++ later)) : Ordered log := by
  rw [Ordered, instants, List.filterMap_append] at h
  exact (List.pairwise_append.mp h).1

/-- A request comes no later than what is told after it. -/
theorem Ordered.le (h : Ordered (log ++ later)) {r : Request} (hr : r ∈ requests log) {now : Nat}
    (hnow : now ∈ instants later) : r.instant ≤ now := by
  rw [Ordered, instants, List.filterMap_append] at h
  refine (List.pairwise_append.mp h).2.2 r.instant ?_ now hnow
  obtain ⟨entry, hentry, heq⟩ := List.mem_filterMap.mp hr
  refine List.mem_filterMap.mpr ⟨entry, hentry, ?_⟩
  cases entry with
  | issued request =>
      cases heq
      rfl
  | passed | resolved => cases heq

theorem Ordered.requests (h : Ordered log) :
    (requests log).Pairwise fun earlier later => earlier.instant ≤ later.instant := by
  have hpairs := List.pairwise_filterMap.mp h
  refine List.pairwise_filterMap.mpr (hpairs.imp fun {a b} hab r hr r' hr' => ?_)
  cases a <;> cases hr
  cases b <;> cases hr'
  exact hab _ rfl _ rfl

theorem Recorded.latest (h : Recorded interval t log) (hordered : Ordered log) {r : Request}
    (hr : r ∈ requests log) : r.instant ≤ t.lastRefresh := by
  obtain ⟨earlier, final, heq, hlast⟩ := h.last
  have hpairs := hordered.requests
  rw [heq] at hr hpairs
  rw [← hlast]
  rcases List.mem_append.mp hr with hearlier | hfinal
  · exact (List.pairwise_append.mp hpairs).2.2 r hearlier final (List.mem_singleton_self final)
  · cases List.mem_singleton.mp hfinal
    exact Nat.le_refl _

/-- When the last request is long enough ago, every request is. -/
theorem Recorded.elapsed_iff (h : Recorded interval t log) (hordered : Ordered log) {now : Nat}
    (hnow : ∀ r ∈ requests log, r.instant ≤ now) (i : Time.Period) :
    i.millis ≤ now - t.lastRefresh ↔ ∀ r ∈ requests log, r.instant + i.millis ≤ now := by
  obtain ⟨earlier, final, heq, hlast⟩ := h.last
  have hfinal : final ∈ requests log := by simp [heq]
  constructor
  · intro hlong r hr
    have hr := h.latest hordered hr
    have hfinal := hnow final hfinal
    omega
  · intro hall
    have hfinal := hall final hfinal
    omega

theorem requests_concat (log : List Entry) (entry : Entry) :
    requests (log ++ [entry]) = requests log ++ entry.request?.toList := by
  rw [requests, List.filterMap_append]
  cases entry <;> rfl

theorem unresolved?_concat (log : List Entry) (entry : Entry) :
    unresolved? (log ++ [entry]) = entry.leaves (unresolved? log) := by
  rw [unresolved?, List.foldl_append, unresolved?, List.foldl_cons, List.foldl_nil]

/-- An entry that is no request leaves the last one where it is. -/
theorem Recorded.note (h : Recorded interval t log) {entry : Entry}
    (hentry : entry.request? = none) (hinterval : t'.interval = t.interval)
    (hlast : t'.lastRefresh = t.lastRefresh)
    (hloading : (entry.leaves (unresolved? log)).isSome → t'.phase = .loading) :
    Recorded interval t' (log ++ [entry]) := by
  have hrequests : requests (log ++ [entry]) = requests log := by
    rw [requests_concat, hentry, Option.toList_none, List.append_nil]
  refine ⟨hinterval.trans h.interval_eq, ?_, ?_, ?_⟩
  · rw [hrequests, hlast]
    exact h.last
  · rw [hrequests]
    exact h.apart
  · rw [unresolved?_concat]
    exact hloading

theorem Recorded.ask (h : Recorded interval t log) {ticket : Ticket} {now : Nat}
    {automatic : Bool} (scope : Scope) (due : automatic → t.Due now)
    (hordered : Ordered (log ++ [.issued ⟨ticket, now, automatic⟩])) :
    Recorded interval (t.asked now scope) (log ++ [.issued ⟨ticket, now, automatic⟩]) := by
  have hrequests := requests_concat log (.issued ⟨ticket, now, automatic⟩)
  refine ⟨h.interval_eq, ⟨requests log, _, hrequests, rfl⟩, ?_, fun _ => rfl⟩
  rw [hrequests]
  refine List.pairwise_append.mpr ⟨h.apart, List.pairwise_singleton _ _, fun earlier hearlier => ?_⟩
  intro later hlater hautomatic
  cases List.mem_singleton.mp hlater
  obtain ⟨i, hi, hlong⟩ := (due hautomatic).elapsed
  refine ⟨i, h.interval_eq.symm.trans hi, ?_⟩
  have hnow : ∀ r ∈ requests log, r.instant ≤ now := by
    intro r hr
    exact hordered.le hr (List.mem_singleton_self now)
  exact (h.elapsed_iff hordered.of_append hnow i).mp hlong earlier hearlier

theorem Recorded.move {entry : Option Entry} (h : Recorded interval t log)
    (hordered : Ordered (log ++ entry.toList)) (m : t.Move entry t') :
    Recorded interval t' (log ++ entry.toList) := by
  cases m with
  | kept =>
      rw [Option.toList_none, List.append_nil]
      exact h
  | passed now => exact h.note rfl rfl rfl h.loading
  | asked scope due => exact h.ask scope due hordered
  | taken =>
      rw [Option.toList_none, List.append_nil]
      exact ⟨h.interval_eq, h.last, h.apart, h.loading⟩
  | landed | unmounted => exact h.note rfl rfl rfl Bool.noConfusion

end Logs

namespace Scene

theorem recorded_run {interval : Option Time.Period} {k : Scene} {log : List Entry}
    (h : Recorded interval k.session.timing log) (events : List Event)
    (hordered : Ordered (log ++ k.log events)) :
    Recorded interval (k.run events).session.timing (log ++ k.log events) := by
  induction events generalizing k log with
  | nil =>
      rw [Scene.log, List.append_nil]
      exact h
  | cons e events ih =>
      -- What the first event tells moves over to the log of the past.
      rw [Scene.log, ← List.append_assoc] at hordered ⊢
      exact ih (h.move hordered.of_append (k.move_step e)) hordered

theorem loading_iff_after (route : Route) (threshold : Binary64) (label : String)
    (noIcons : Bool) (interval : Option Time.Period) (events : List Event) :
    let d := (after route threshold label noIcons interval events).session.dashboard
    d.phase = .loading ↔ d.inFlight.isSome := by
  obtain ⟨-, events', hbehind⟩ : True ∧ ∃ events',
      Behind (Dashboard.Scene.after route threshold events')
        (after route threshold label noIcons interval events) :=
    after_induction (fun _ _ _ _ => trivial) trivial events
  have hlinked := Dashboard.Scene.linked_after route threshold events'
  rw [← hbehind.dashboard_eq]
  exact hlinked.loading_iff

end Scene

/-- The same is shown in both sessions, and the same row is selected. -/
structure SameView (s s' : Session) : Prop where
  route : s'.dashboard.route = s.dashboard.route
  query : s'.dashboard.query = s.dashboard.query
  filter : s'.dashboard.filter = s.dashboard.filter
  expansion : s'.dashboard.expansion = s.dashboard.expansion
  snapshot : s'.dashboard.snapshot = s.dashboard.snapshot
  visible : s'.dashboard.visible = s.dashboard.visible
  selected : s'.selected = s.selected

theorem sameView_refresh (s : Session) (now : Nat) : s.SameView (s.refresh now) := by
  rw [refresh, Dashboard.refresh_eq]
  exact ⟨rfl, rfl, rfl, rfl, rfl, rfl, rfl⟩

namespace Scene

/-- What a tick does to a scene with a past. -/
structure TickAt (k : Scene) (interval : Option Time.Period) (past : List Entry) (now : Nat) :
    Prop where
  issues_iff : (k.issued? (.tick now)).isSome ↔
    k.session.dashboard.phase ≠ .loading ∧ k.session.queued = none ∧
      ∃ i, interval = some i ∧ ∀ r ∈ requests past, r.instant + i.millis ≤ now
  passes : k.issued? (.tick now) = none → k.step (.tick now) = k
  /-- No fetch is running, and no task is aborted. -/
  supersedes_nothing : (k.issued? (.tick now)).isSome →
    unresolved? past = none ∧ k.session.dashboard.inFlight = none ∧
      (k.step (.tick now)).session.dashboard.aborted = k.session.dashboard.aborted
  sameView : k.session.SameView (k.step (.tick now)).session

section Ticks

variable {interval : Option Time.Period} {k : Scene} {past : List Entry} {now : Nat}

theorem issued?_tick_iff : (k.issued? (.tick now)).isSome ↔ k.session.timing.Due now := by
  by_cases hdue : k.session.timing.Due now
  · simp [issued?_tick_of_due hdue, hdue]
  · simp [issued?_tick_of_not_due hdue, hdue]

theorem instants_tick (k : Scene) (now : Nat) :
    instants (k.logged? (.tick now)).toList = [now] := by
  rw [logged?]
  split <;> rfl

theorem due_iff (h : Recorded interval k.session.timing past)
    (hordered : Ordered (past ++ (k.logged? (.tick now)).toList)) :
    k.session.timing.Due now ↔
      k.session.dashboard.phase ≠ .loading ∧ k.session.queued = none ∧
        ∃ i, interval = some i ∧ ∀ r ∈ requests past, r.instant + i.millis ≤ now := by
  have hnow : ∀ r ∈ requests past, r.instant ≤ now := by
    intro r hr
    refine hordered.le hr ?_
    rw [instants_tick]
    exact List.mem_singleton_self now
  have helapsed := h.elapsed_iff hordered.of_append hnow
  constructor
  · rintro ⟨⟨i, hi, hlong⟩, hsettled, hqueued⟩
    exact ⟨hsettled, hqueued, i, h.interval_eq.symm.trans hi, (helapsed i).mp hlong⟩
  · rintro ⟨hsettled, hqueued, i, hi, hall⟩
    exact ⟨⟨i, h.interval_eq.trans hi, (helapsed i).mpr hall⟩, hsettled, hqueued⟩

theorem tickAt (h : Recorded interval k.session.timing past)
    (hordered : Ordered (past ++ (k.logged? (.tick now)).toList))
    (hlinked : k.session.dashboard.phase = .loading ↔ k.session.dashboard.inFlight.isSome) :
    TickAt k interval past now where
  issues_iff := issued?_tick_iff.trans (due_iff h hordered)
  passes hnone := by
    apply step_tick_of_not_due
    rw [← issued?_tick_iff, hnone]
    exact Bool.false_ne_true
  supersedes_nothing hissued := by
    have hdue := issued?_tick_iff.mp hissued
    have hidle : k.session.dashboard.inFlight = none := by
      rw [← Option.not_isSome_iff_eq_none, ← hlinked]
      exact hdue.settled
    refine ⟨?_, hidle, ?_⟩
    · rw [← Option.not_isSome_iff_eq_none]
      exact mt h.loading hdue.settled
    · rw [step_tick_of_due hdue]
      change (k.session.refresh now).dashboard.aborted = _
      rw [refresh, Dashboard.refresh_eq]
      simp [Dashboard.givenUp, hidle]
  sameView := by
    by_cases hdue : k.session.timing.Due now
    · rw [step_tick_of_due hdue]
      exact sameView_refresh k.session now
    · rw [step_tick_of_not_due hdue]
      exact ⟨rfl, rfl, rfl, rfl, rfl, rfl, rfl⟩

end Ticks

theorem recorded_start (route : Route) (threshold : Binary64) (label : String) (noIcons : Bool)
    (interval : Option Time.Period) :
    let k := start route threshold label noIcons interval
    Recorded interval k.session.timing (k.history []) :=
  ⟨rfl, ⟨[], _, rfl, rfl⟩, List.pairwise_singleton _ _, fun _ => rfl⟩

/-- Every tick of a run disturbs nothing, and no request of a tick comes early. The log in which the
requests are counted misses none. -/
structure KeepsCadence (k : Scene) (interval : Option Time.Period) (events : List Event) :
    Prop where
  ticks : ∀ before now later, events = before ++ .tick now :: later →
    TickAt (k.run before) interval (k.history before) now
  apart : (requests (k.history events)).Pairwise (Apart interval)
  logged : ∀ before e later, events = before ++ e :: later → (k.run before).issued? e =
    (((k.run before).logged? e).bind Entry.request?).map Request.ticket
  /-- A navigation that is no request goes nowhere. -/
  stays : ∀ before route now later, events = before ++ .navigate route now :: later →
    (k.run before).issued? (.navigate route now) = none →
    (k.run before).step (.navigate route now) = k.run before

theorem automatic_refresh_keeps_cadence (route : Route) (threshold : Binary64) (label : String)
    (noIcons : Bool) (interval : Option Time.Period) (events : List Event)
    (hordered : Ordered ((start route threshold label noIcons interval).history events)) :
    KeepsCadence (start route threshold label noIcons interval) interval events := by
  have hstart := recorded_start route threshold label noIcons interval
  refine ⟨?_, (recorded_run hstart events hordered).apart, fun _ e _ _ => issued?_eq_logged _ e,
    fun _ _ _ _ _ => step_navigate_of_not_issued⟩
  rintro before now later rfl
  have hlinked := loading_iff_after route threshold label noIcons interval before
  rw [history_append, log, ← List.append_assoc] at hordered
  have hbefore := recorded_run hstart before hordered.of_append.of_append
  exact tickAt hbefore hordered.of_append hlinked

/-- With half a minute between refreshes and a key that asks in between, the second tick is too
early, and the third one asks. -/
theorem automatic_refresh_after_key :
    let k := start .all Search.defaultThreshold "" false (some ⟨30000⟩)
    let events := [.take, .drop ⟨1, .all⟩, .poll, .tick 29999, .press ⟨.char 'r', false⟩ 40000,
      .take, .drop ⟨2, .all⟩, .poll, .tick 69999, .tick 70000]
    instants (k.history events) = [0, 29999, 40000, 69999, 70000] ∧
      (requests (k.history events)).map (fun r => (r.instant, r.automatic)) =
        [(0, false), (40000, false), (70000, true)] ∧
      KeepsCadence k (some ⟨30000⟩) events := by
  intro k events
  have hinstants : instants (k.history events) = [0, 29999, 40000, 69999, 70000] := by
    decide +kernel
  refine ⟨hinstants, by decide +kernel, automatic_refresh_keeps_cadence _ _ _ _ _ events ?_⟩
  rw [Ordered, hinstants]
  decide

end Scene

end Session

end WaybillBoard
