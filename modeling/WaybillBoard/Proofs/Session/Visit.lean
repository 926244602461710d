import WaybillBoard.Proofs.Session.Escape
import WaybillBoard.Proofs.Session.Selection
import WaybillBoard.Proofs.Session.Serving
import WaybillBoard.Proofs.Source.Agreement

/-!
A visit to a namespace. From a list of all namespaces Enter leads to the selected Waybill alone, and
Escape leads back to the whole list, with nothing left of what narrowed it.
-/

namespace WaybillBoard

/-- Where no namespace is twice, a Waybill is the first of its namespace. -/
theorem Snapshot.get?_of_nodup {s : Snapshot} {w : Waybill}
    (hdistinct : (s.waybills.map Waybill.namespaceName).Nodup) (hw : w ∈ s.waybills) :
    s.get? w.namespaceName = some w := by
  cases hget : s.get? w.namespaceName with
  | none =>
      have hother := List.find?_eq_none.mp hget w hw
      exact absurd (decide_eq_true rfl) hother
  | some v =>
      have hv := List.mem_of_find?_eq_some hget
      have hsame := (get?_eq_some_iff.mp hget).1
      rw [List.inj_on_of_nodup_map hdistinct hv hw hsame]

namespace Dashboard

/-- A list as it is shown on a route before anything is narrowed, folded or unfolded. -/
structure Untouched (d : Dashboard) (route : Route) (list : StatusList) (expanded : Bool) :
    Prop where
  route : d.route = route
  phase : d.phase = .ready
  query : d.query = ""
  filter : d.filter = .all
  snapshot : d.snapshot.map Snapshot.list = some list
  visible : d.visible = list.waybills
  isExpanded : ∀ ns, d.isExpanded ns = expanded
  rows : ∀ now, d.rows now = list.waybills.map (Panel.of · expanded list.diffUrlFormat now)

/-- A change of the route leaves nothing that an answer could be narrowed by. -/
theorem untouched_moved (d : Dashboard) (route : Route) (s : Snapshot) :
    Untouched ((d.moved route).refresh.1.settled (.ok s)) route s.list (route.mode = .single) := by
  have hquery : (d.moved route).refresh.1.query = "" := by
    rw [refresh_eq]
    rfl
  have hfilter : (d.moved route).refresh.1.filter = .all := by
    rw [refresh_eq]
    rfl
  have hvisible := visible_settled (by rw [hquery]; decide) hfilter s
  constructor
  · rw [refresh_eq]
    rfl
  · rfl
  · exact hquery
  · exact hfilter
  · rfl
  · exact hvisible
  · intro ns
    rw [refresh_eq]
    rfl
  · intro now
    rw [Snapshot.list, ← hvisible, refresh_eq]
    rfl

theorem mem_of_mem_visible {d : Dashboard} {s : Snapshot} (hs : d.snapshot = some s) {w : Waybill}
    (hw : w ∈ d.visible) : w ∈ s.waybills := by
  simp only [visible, hs] at hw
  obtain ⟨place, -, hplace⟩ := List.mem_filterMap.mp hw
  exact List.mem_of_getElem? hplace

end Dashboard

namespace Session

/-- A session that shows a list on a route as if nothing had been done there. -/
structure Shows (s : Session) (route : Route) (list : StatusList) (expanded : Bool) : Prop where
  untouched : s.dashboard.Untouched route list expanded
  selected : s.selected = 0

theorem navigate_away {s : Session} {route : Route}
    (hleave : ¬ (route = s.dashboard.route ∧ s.dashboard.phase ≠ .idle)) (now : Nat) :
    s.navigate route now =
      { s with
        dashboard := (s.dashboard.moved route).refresh.1
        queued := some (s.dashboard.moved route).refresh.2
        lastRefresh := now
        searching := false
        selected := 0
        offset := 0 } := by
  rw [navigate, Dashboard.navigate_eq, if_neg hleave]
  rfl

/-- What another route comes to, once its request is served. -/
theorem shows_served {s : Session} {route : Route}
    (hleave : ¬ (route = s.dashboard.route ∧ s.dashboard.phase ≠ .idle)) (now : Nat)
    {list : StatusList} {fetchedAt : Time.Instant} {shown : Snapshot}
    (hselect : Snapshot.select list route.scope fetchedAt = .ok shown) :
    let s' := (s.navigate route now).serve list fetchedAt
    s'.Shows route shown.list (route.mode = .single) ∧ s'.message = s.message ∧
      s'.showsHelp = s.showsHelp ∧ s'.searching = false := by
  have huntouched := s.dashboard.untouched_moved route shown
  rw [navigate_away hleave]
  obtain ⟨message, selected, offset, heq, hfirst, hkept⟩ := serve_requested
    (s := { s with
      dashboard := (s.dashboard.moved route).refresh.1
      queued := some (s.dashboard.moved route).refresh.2
      lastRefresh := now
      searching := false
      selected := 0
      offset := 0 }) (d := s.dashboard.moved route) rfl rfl list fetchedAt
  have hmoved : (s.dashboard.moved route).route = route := rfl
  rw [hmoved, hselect] at heq hkept
  rw [heq]
  exact ⟨⟨huntouched, hfirst rfl⟩, hkept huntouched.phase, rfl, rfl⟩

/-- A session that shows the present list of a server on the route of all namespaces, with no help
or prompt over it. -/
structure Browses (s : Session) (list : StatusList) : Prop where
  mode : s.dashboard.mode = .list
  phase : s.dashboard.phase = .ready
  help : s.showsHelp = false
  prompt : s.searching = false
  snapshot : s.dashboard.snapshot.map Snapshot.list = some list
  distinct : (list.waybills.map Waybill.namespaceName).Nodup
  visible : s.dashboard.visible ≠ []

theorem onRow_after (route : Route) (threshold : Binary64) (label : String) (noIcons : Bool)
    (interval : Option Time.Period) (events : List Event) :
    (Scene.after route threshold label noIcons interval events).session.OnRow :=
  (Scene.after_induction (P := fun k => k.session.OnRow) (fun _ _ h e => onRow_happening h e)
    (onRow_of_first (s := .start route threshold label noIcons interval) rfl) events).1

/-- In a list of namespaces Enter goes to the selected one. -/
theorem press_enter_selected {s : Session} (hmode : s.dashboard.mode = .list)
    (hhelp : s.showsHelp = false) (hprompt : s.searching = false) {w : Waybill}
    (hw : s.selectedWaybill? = some w) (now : Nat) :
    s.press ⟨.enter, false⟩ now =
      (({ s with message := none } : Session).navigate (.only w.namespaceName) now, false) := by
  have hw' : ({ s with message := none } : Session).selectedWaybill? = some w := hw
  rw [press_row (.inl rfl) now hhelp hprompt, if_pos ⟨rfl, hmode⟩, openSelected, hw']

/-- In the view of a namespace that is not narrowed Escape goes back to all of them. -/
theorem press_escape_untouched {s : Session} {ns : String} {list : StatusList} {expanded : Bool}
    (h : s.Shows (.only ns) list expanded) (hhelp : s.showsHelp = false)
    (hprompt : s.searching = false) (hmessage : s.message = none) (now : Nat) :
    s.press escapeKey now = (s.navigate .all now, false) := by
  rw [press_escape_in_list now (by simp [hhelp]) (by simp [hprompt]) hmessage, escape,
    if_neg (not_narrowed h.untouched.query h.untouched.filter), h.untouched.route]

/-- Enter shows the selected Waybill alone, and Escape the whole list again. -/
theorem visit_and_return (route : Route) (threshold : Binary64) (label : String) (noIcons : Bool)
    (interval : Option Time.Period) (events : List Event) (list : StatusList)
    (entered left : Nat) (fetchedIn fetchedOut : Time.Instant)
    (h : (Scene.after route threshold label noIcons interval events).session.Browses list) :
    let s := (Scene.after route threshold label noIcons interval events).session
    ∃ w, s.selectedWaybill? = some w ∧
      let inside := (s.press ⟨.enter, false⟩ entered).1.serve list fetchedIn
      (s.press ⟨.enter, false⟩ entered).2 = false ∧
        inside.Shows (.only w.namespaceName) ⟨[w], list.diffUrlFormat⟩ true ∧
        (inside.press escapeKey left).2 = false ∧
        ((inside.press escapeKey left).1.serve list fetchedOut).Shows .all list false := by
  have honRow := onRow_after route threshold label noIcons interval events
  generalize (Scene.after route threshold label noIcons interval events).session = s at h honRow
  obtain ⟨shown, hsnapshot, rfl⟩ := Option.map_eq_some_iff.mp h.snapshot
  obtain ⟨w, hw⟩ := Option.isSome_iff_exists.mp (honRow.selected_isSome_iff.mpr h.visible)
  have hmem := Dashboard.mem_of_mem_visible hsnapshot (List.mem_of_getElem? hw)
  have hselect : Snapshot.select shown.list (.only w.namespaceName) fetchedIn =
      .ok (.single w.namespaceName w shown.diffUrlFormat fetchedIn) := by
    rw [Snapshot.select_list_only, Snapshot.get?_of_nodup h.distinct hmem]
  have hleave : ¬ (.only w.namespaceName = s.dashboard.route ∧ s.dashboard.phase ≠ .idle) := by
    rintro ⟨hroute, -⟩
    have hmode := h.mode
    rw [Dashboard.mode, ← hroute] at hmode
    cases hmode
  have henter := press_enter_selected h.mode h.help h.prompt hw entered
  refine ⟨w, hw, ?_⟩
  rw [henter]
  intro inside
  obtain ⟨hinside, hmessage, hhelp, hprompt⟩ :=
    shows_served (s := { s with message := none }) hleave entered hselect
  have hescape := press_escape_untouched hinside (hhelp.trans h.help) hprompt hmessage left
  have hback : ¬ (.all = inside.dashboard.route ∧ inside.dashboard.phase ≠ .idle) := by
    rw [hinside.untouched.route]
    rintro ⟨hroute, -⟩
    cases hroute
  refine ⟨rfl, hinside, ?_⟩
  rw [hescape]
  exact ⟨rfl, (shows_served hback left rfl).1⟩

/-- The second of two that was searched for and never ran. -/
theorem visit_and_return_found :
    let waybill (ns : String) : Waybill := { identity := { namespaceName := ns } }
    let list : StatusList := { waybills := [waybill "a", waybill "b"] }
    let s := (Scene.after .all Search.defaultThreshold "" false none
      [.take, .send ⟨1, .all⟩ (.ok (.ofList list .epoch)), .poll, .press ⟨.char '/', false⟩ 1,
        .press ⟨.char 'b', false⟩ 2, .press ⟨.enter, false⟩ 3,
        .press ⟨.char 'o', false⟩ 4]).session
    let inside := (s.press ⟨.enter, false⟩ 5).1.serve list .epoch
    s.dashboard.visible = [waybill "b"] ∧ s.Browses list ∧
      inside.Shows (.only "b") ⟨[waybill "b"], ""⟩ true ∧
      ((inside.press escapeKey 6).1.serve list .epoch).Shows .all list false := by
  intro waybill list s inside
  have hvisible : s.dashboard.visible = [waybill "b"] := by decide +kernel
  have hselected : s.selectedWaybill? = some (waybill "b") := by decide +kernel
  have h : s.Browses list :=
    { mode := by decide +kernel
      phase := by decide +kernel
      help := by decide +kernel
      prompt := by decide +kernel
      snapshot := by decide +kernel
      distinct := by decide
      visible := by
        rw [hvisible]
        exact List.cons_ne_nil _ _ }
  obtain ⟨w, hw, -, hinside, -, hback⟩ :=
    visit_and_return _ _ _ _ _ _ list 5 6 .epoch .epoch h
  obtain rfl := Option.some.inj (hselected.symm.trans hw)
  exact ⟨hvisible, h, hinside, hback⟩

end Session

end WaybillBoard
