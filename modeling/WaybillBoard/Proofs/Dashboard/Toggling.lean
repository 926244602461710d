import WaybillBoard.Proofs.Dashboard.Landing

/-!
Toggling. A toggle folds or unfolds one namespace and touches nothing else. Two toggles of it may
leave another map behind, but one that stands for the same, and does so for ever.
-/

namespace WaybillBoard

namespace Dashboard

theorem isExpanded_settled_of_not_holds (d : Dashboard) {s : Snapshot} {ns : String}
    (h : s.holds ns = false) :
    (d.settled (.ok s)).isExpanded ns = decide (d.mode = .single) := by
  have hdropped := d.expansion.get?_filter_false (p := s.holds) h
  exact congrArg (fun stored => stored.getD (decide (d.mode = .single))) hdropped

/-- What a toggle changes, and what it leaves. -/
structure TogglesOnly (d : Dashboard) (ns : String) : Prop where
  flips : (d.toggle ns).isExpanded ns = !d.isExpanded ns
  others : ∀ name, name ≠ ns → (d.toggle ns).isExpanded name = d.isExpanded name
  /-- Phase, generation, fetch in flight, query, filter, snapshot and whatever else is stored. -/
  rest : ∃ expansion, d.toggle ns = { d with expansion }
  visible : (d.toggle ns).visible = d.visible
  summary : (d.toggle ns).summary = d.summary
  rows : ∀ now, (d.toggle ns).rows now = (d.rows now).map fun panel =>
    if panel.namespaceName = ns then { panel with expanded := !panel.expanded } else panel

theorem rows_toggle (d : Dashboard) (ns : String) (now : Time.Instant) :
    (d.toggle ns).rows now = (d.rows now).map fun panel =>
      if panel.namespaceName = ns then { panel with expanded := !panel.expanded } else panel := by
  have hvisible : (d.toggle ns).visible = d.visible := rfl
  have hsnapshot : (d.toggle ns).snapshot = d.snapshot := rfl
  unfold rows
  rw [hsnapshot, hvisible]
  cases d.snapshot with
  | none => rfl
  | some s =>
      rw [List.map_map]
      apply List.map_congr_left
      intro w _
      rw [isExpanded_toggle]
      simp only [Function.comp_apply, Panel.of]
      split
      · next same => rw [same]
      · rfl

theorem togglesOnly (d : Dashboard) (ns : String) : TogglesOnly d ns := by
  constructor
  · rw [isExpanded_toggle, if_pos rfl]
  · intro name other
    rw [isExpanded_toggle, if_neg other]
  · exact ⟨_, rfl⟩
  · rfl
  · rfl
  · exact rows_toggle d ns

/-- The same dashboard, but for the map of what is expanded, which stands for the same. -/
structure Twin (d d' : Dashboard) : Prop where
  stored : ∃ expansion, d' = { d with expansion }
  expanded : ∀ ns, d'.isExpanded ns = d.isExpanded ns

theorem twin_toggle_toggle (d : Dashboard) (ns : String) : Twin d ((d.toggle ns).toggle ns) := by
  constructor
  · exact ⟨_, rfl⟩
  · intro name
    rw [isExpanded_toggle, isExpanded_toggle, isExpanded_toggle, if_pos rfl, Bool.not_not]
    split
    · next same => rw [same]
    · rfl

/-- A namespace that was folded anyway is stored as folded. -/
example : ((Dashboard.toggle { route := .all } "a").toggle "a").expansion = [("a", false)] := by
  decide

/-- An operation that works beside the map: it neither looks at what is expanded nor changes it. -/
structure Beside (f : Dashboard → Dashboard) : Prop where
  stored : ∀ d expansion, f { d with expansion } = { f d with expansion }
  mode : ∀ d, (f d).mode = d.mode

theorem Beside.isExpanded {f : Dashboard → Dashboard} (h : Beside f) (d : Dashboard)
    (ns : String) : (f d).isExpanded ns = d.isExpanded ns := by
  have hsame : f d = { f d with expansion := d.expansion } := h.stored d d.expansion
  have hmode := h.mode d
  rw [hsame] at hmode ⊢
  unfold Dashboard.isExpanded
  rw [hmode]

theorem beside_refresh : Beside fun d => d.refresh.1 := by
  constructor
  · intro d expansion
    rw [refresh_eq, refresh_eq]
    rfl
  · intro d
    rw [refresh_eq]
    rfl

theorem beside_unmount : Beside unmount := by
  constructor
  · intro d expansion
    rw [unmount_eq, unmount_eq]
    rfl
  · intro d
    rw [unmount_eq]
    rfl

theorem beside_track (generation : Nat) (task : TaskId) : Beside (·.track generation task) := by
  constructor
  · intro d expansion
    unfold track
    dsimp only
    split
    · rfl
    · split <;> rfl
  · intro d
    obtain ⟨aborted, heq⟩ := track_eq d generation task
    rw [heq]
    rfl

theorem beside_deliver (generation : Nat) (outcome : FetchOutcome) :
    Beside fun d => (d.deliver generation outcome).1 := by
  constructor
  · intro d expansion
    unfold deliver
    dsimp only
    split
    · split <;> rfl
    · rfl
  · intro d
    have hused : Used d ⟨generation, .all⟩ (d.deliver generation outcome).1 := .sent outcome
    obtain ⟨inFlight, heq⟩ := hused.eq
    rw [heq]
    rfl

theorem beside_abandon (generation : Nat) : Beside (·.abandon generation) := by
  constructor
  · intro d expansion
    unfold abandon
    dsimp only
    split
    · split <;> rfl
    · rfl
  · intro d
    have hused : Used d ⟨generation, .all⟩ (d.abandon generation) := .dropped
    obtain ⟨inFlight, heq⟩ := hused.eq
    rw [heq]
    rfl

namespace Twin

variable {d d' : Dashboard}

theorem beside (h : Twin d d') {f : Dashboard → Dashboard} (hf : Beside f) :
    Twin (f d) (f d') := by
  obtain ⟨expansion, heq⟩ := h.stored
  constructor
  · exact ⟨expansion, by rw [heq, hf.stored]⟩
  · intro ns
    rw [hf.isExpanded, hf.isExpanded, h.expanded]

theorem toggle (h : Twin d d') (ns : String) : Twin (d.toggle ns) (d'.toggle ns) := by
  obtain ⟨⟨expansion, rfl⟩, hexpanded⟩ := h
  constructor
  · exact ⟨_, rfl⟩
  · intro name
    rw [isExpanded_toggle, isExpanded_toggle, hexpanded, hexpanded]

theorem setAllExpanded (h : Twin d d') (all : Bool) :
    Twin (d.setAllExpanded all) (d'.setAllExpanded all) := by
  obtain ⟨⟨expansion, rfl⟩, hexpanded⟩ := h
  constructor
  · obtain ⟨before, heq⟩ := setAllExpanded_eq d all
    obtain ⟨after, heq'⟩ := setAllExpanded_eq { d with expansion } all
    exact ⟨after, by rw [heq, heq']⟩
  · intro ns
    rw [isExpanded_setAllExpanded, isExpanded_setAllExpanded, hexpanded]

/-- A change of the route forgets what was expanded, and the twins become one. -/
theorem navigate (h : Twin d d') (route : Route) :
    Twin (d.navigate route).1 (d'.navigate route).1 ∧
      (d'.navigate route).2 = (d.navigate route).2 := by
  obtain ⟨⟨expansion, rfl⟩, hexpanded⟩ := h
  rw [navigate_eq, navigate_eq]
  split
  · exact ⟨⟨⟨expansion, rfl⟩, hexpanded⟩, rfl⟩
  · exact ⟨⟨⟨_, rfl⟩, fun _ => rfl⟩, rfl⟩

/-- What a snapshot does not hold is at its default again, and the rest stays as it is. -/
theorem settled (h : Twin d d') (outcome : FetchOutcome) :
    Twin (d.settled outcome) (d'.settled outcome) := by
  obtain ⟨⟨expansion, rfl⟩, hexpanded⟩ := h
  cases outcome with
  | error e => exact ⟨⟨expansion, rfl⟩, hexpanded⟩
  | ok s =>
      refine ⟨⟨_, rfl⟩, ?_⟩
      intro ns
      cases hin : s.holds ns with
      | true =>
          rw [isExpanded_settled _ hin, isExpanded_settled _ hin]
          exact hexpanded ns
      | false =>
          rw [isExpanded_settled_of_not_holds _ hin, isExpanded_settled_of_not_holds _ hin]
          rfl

theorem complete (h : Twin d d') (generation : Nat) (outcome : FetchOutcome) :
    Twin (d.complete generation outcome).1 (d'.complete generation outcome).1 ∧
      (d'.complete generation outcome).2 = (d.complete generation outcome).2 := by
  have hsettled := h.settled outcome
  obtain ⟨⟨expansion, rfl⟩, hexpanded⟩ := h
  rw [complete_eq, complete_eq]
  split
  · exact ⟨hsettled, rfl⟩
  · exact ⟨⟨⟨expansion, rfl⟩, hexpanded⟩, rfl⟩

end Twin

/-- Whatever can be asked of a dashboard has the same answer. -/
structure SameAnswers (d d' : Dashboard) : Prop where
  route : d'.route = d.route
  mode : d'.mode = d.mode
  phase : d'.phase = d.phase
  generation : d'.generation = d.generation
  inFlight : d'.inFlight = d.inFlight
  query : d'.query = d.query
  filter : d'.filter = d.filter
  snapshot : d'.snapshot = d.snapshot
  isExpanded : ∀ ns, d'.isExpanded ns = d.isExpanded ns
  visible : d'.visible = d.visible
  rows : ∀ now, d'.rows now = d.rows now
  summary : d'.summary = d.summary
  aborted : d'.aborted = d.aborted

theorem Twin.sameAnswers {d d' : Dashboard} (h : Twin d d') : SameAnswers d d' := by
  obtain ⟨⟨expansion, rfl⟩, hexpanded⟩ := h
  refine ⟨rfl, rfl, rfl, rfl, rfl, rfl, rfl, rfl, hexpanded, rfl, ?_, rfl, rfl⟩
  intro now
  unfold rows
  simp only [hexpanded]
  rfl

namespace Scene

/-- Scenes whose dashboards are twins, and of which the same tickets and log are known. -/
structure Twin (k k' : Scene) : Prop where
  dashboard : Dashboard.Twin k.dashboard k'.dashboard
  held : k'.held = k.held
  log : k'.log = k.log

namespace Twin

variable {k k' : Scene}

theorem issue (h : Twin k k') {answer answer' : Dashboard × Ticket}
    (hdashboard : Dashboard.Twin answer.1 answer'.1) (hticket : answer'.2 = answer.2) :
    Twin (k.issue answer) (k'.issue answer') := by
  have hroute := hdashboard.sameAnswers.route
  constructor
  · exact hdashboard
  · simp only [Scene.issue, hticket, h.held]
  · simp only [Scene.issue, hticket, hroute, h.log]

theorem offer (h : Twin k k') (generation : Nat) (outcome : FetchOutcome)
    {answer answer' : Dashboard × Bool} (hdashboard : Dashboard.Twin answer.1 answer'.1)
    (htaken : answer'.2 = answer.2) :
    Twin (k.offer generation outcome answer) (k'.offer generation outcome answer') := by
  constructor
  · exact hdashboard
  · exact h.held
  · simp only [Scene.offer, htaken, h.log]

theorem navigate (h : Twin k k') (route : Route) :
    Twin (k.step (.navigate route)) (k'.step (.navigate route)) := by
  obtain ⟨hdashboard, hticket⟩ := h.dashboard.navigate route
  simp only [Scene.step]
  generalize k.dashboard.navigate route = answer at hdashboard hticket
  generalize k'.dashboard.navigate route = answer' at hdashboard hticket
  obtain ⟨d, ticket⟩ := answer
  obtain ⟨d', ticket'⟩ := answer'
  obtain rfl : ticket' = ticket := hticket
  cases ticket' with
  | none => exact ⟨hdashboard, h.held, h.log⟩
  | some ticket => exact h.issue hdashboard rfl

theorem poll (h : Twin k k') : Twin (k.step .poll) (k'.step .poll) := by
  have harrived : k'.dashboard.arrived? = k.dashboard.arrived? :=
    congrArg (Option.bind · _) h.dashboard.sameAnswers.inFlight
  simp only [Scene.step]
  cases hfound : k.dashboard.arrived? with
  | none =>
      rw [hfound] at harrived
      rw [harrived, poll_of_none hfound, poll_of_none harrived]
      exact h
  | some found =>
      obtain ⟨generation, outcome⟩ := found
      rw [hfound] at harrived
      rw [harrived, poll_of_some hfound, poll_of_some harrived]
      have hidle : Beside fun d => { d with inFlight := none } := ⟨fun _ _ => rfl, fun _ => rfl⟩
      have hcomplete := (h.dashboard.beside hidle).complete generation outcome
      exact h.offer generation outcome hcomplete.1 hcomplete.2

/-- The use of a ticket works beside the map. -/
theorem use (h : Twin k k') {f : Dashboard → Dashboard} (hf : Beside f) (ticket : Ticket) :
    Twin
      (if ticket ∈ k.held then
        { k with dashboard := f k.dashboard, held := k.held.erase ticket } else k)
      (if ticket ∈ k'.held then
        { k' with dashboard := f k'.dashboard, held := k'.held.erase ticket } else k') := by
  rw [h.held]
  split
  · exact ⟨h.dashboard.beside hf, rfl, h.log⟩
  · exact h

theorem step (h : Twin k k') (e : Event) : Twin (k.step e) (k'.step e) := by
  cases e with
  | refresh =>
      have hticket : k'.dashboard.refresh.2 = k.dashboard.refresh.2 := by
        rw [refresh_eq, refresh_eq, h.dashboard.sameAnswers.generation,
          h.dashboard.sameAnswers.route]
      exact h.issue (h.dashboard.beside beside_refresh) hticket
  | navigate route => exact h.navigate route
  | unmount => exact ⟨h.dashboard.beside beside_unmount, h.held, congrArg (Entry.unmounted :: ·) h.log⟩
  | complete generation outcome =>
      obtain ⟨hdashboard, htaken⟩ := h.dashboard.complete generation outcome
      exact h.offer generation outcome hdashboard htaken
  | poll => exact h.poll
  | setQuery query =>
      have hbeside : Beside (·.setQuery query) := ⟨fun _ _ => rfl, fun _ => rfl⟩
      exact ⟨h.dashboard.beside hbeside, h.held, h.log⟩
  | setFilter filter =>
      have hbeside : Beside (·.setFilter filter) := ⟨fun _ _ => rfl, fun _ => rfl⟩
      exact ⟨h.dashboard.beside hbeside, h.held, h.log⟩
  | cycleFilter =>
      have hbeside : Beside cycleFilter := ⟨fun _ _ => rfl, fun _ => rfl⟩
      exact ⟨h.dashboard.beside hbeside, h.held, h.log⟩
  | toggle ns => exact ⟨h.dashboard.toggle ns, h.held, h.log⟩
  | setAllExpanded all => exact ⟨h.dashboard.setAllExpanded all, h.held, h.log⟩
  | track generation task =>
      exact ⟨h.dashboard.beside (beside_track generation task), h.held, h.log⟩
  | send ticket outcome => exact h.use (beside_deliver ticket.generation outcome) ticket
  | drop ticket => exact h.use (beside_abandon ticket.generation) ticket

theorem run (h : Twin k k') (events : List Event) : Twin (k.run events) (k'.run events) := by
  induction events generalizing k k' with
  | nil => exact h
  | cons e events ih => exact ih (h.step e)

end Twin

/-- Nothing but its own namespace is toggled, and what happens later never tells that it was
toggled back. -/
theorem toggle_local_and_reversible (k : Scene) (ns : String) (later : List Event) :
    TogglesOnly k.dashboard ns ∧
      let untouched := k.run later
      let touched := (k.run [.toggle ns, .toggle ns]).run later
      SameAnswers untouched.dashboard touched.dashboard ∧
        touched.held = untouched.held ∧ touched.log = untouched.log := by
  refine ⟨togglesOnly k.dashboard ns, ?_⟩
  intro untouched touched
  have htoggled : Twin k (k.run [.toggle ns, .toggle ns]) :=
    ⟨twin_toggle_toggle k.dashboard ns, rfl, rfl⟩
  have htwin : Twin untouched touched := htoggled.run later
  exact ⟨htwin.dashboard.sameAnswers, htwin.held, htwin.log⟩

end Scene

end Dashboard

end WaybillBoard
