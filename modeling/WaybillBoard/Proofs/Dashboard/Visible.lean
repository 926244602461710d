import WaybillBoard.Proofs.Dashboard.Linked
import WaybillBoard.Proofs.Search.Ranking

/-!
What a dashboard derives from its snapshot is never stale: index and visible places are those that
would be computed afresh.
-/

namespace WaybillBoard.Dashboard

/-- The places that a search of a snapshot returns, in its order. -/
def foundPlaces (s : Snapshot) (query : String) (threshold : Binary64) : List Nat :=
  ((Search.Index.build s.waybills threshold).search query).map Search.Hit.index

/-- What there is to derive from a snapshot agrees with it, and so does the phase. -/
structure Derived (d : Dashboard) (threshold : Binary64) : Prop where
  threshold_eq : d.threshold = threshold
  index_eq : d.index = d.snapshot.map fun s => Search.Index.build s.waybills threshold
  places_eq : d.visiblePlaces = d.updateVisible.visiblePlaces
  ready : d.phase = .ready → d.snapshot.isSome
  idle : d.phase = .idle → d.snapshot = none
  failed : ∀ e, d.phase = .failed e → d.snapshot = none

theorem derived_settled {d : Dashboard} {threshold : Binary64} (h : Derived d threshold)
    (outcome : FetchOutcome) : Derived (d.settled outcome) threshold := by
  cases outcome with
  | error e =>
      exact ⟨h.threshold_eq, rfl, rfl, Phase.noConfusion, Phase.noConfusion, fun _ _ => rfl⟩
  | ok s =>
      refine ⟨h.threshold_eq, ?_, rfl, fun _ => rfl, Phase.noConfusion, fun _ => Phase.noConfusion⟩
      rw [← h.threshold_eq]
      rfl

namespace Scene

theorem derived_effect {k k' : Scene} {threshold : Binary64}
    (h : Derived k.dashboard threshold) (e : Effect k k') : Derived k'.dashboard threshold := by
  cases e with
  | nothing | wasted => exact h
  | narrowed query filter =>
      exact ⟨h.threshold_eq, h.index_eq, rfl, h.ready, h.idle, h.failed⟩
  | unfolded | registered | mailed =>
      exact ⟨h.threshold_eq, h.index_eq, h.places_eq, h.ready, h.idle, h.failed⟩
  | issued hd =>
      rw [issue, refresh_eq]
      rcases hd with rfl | ⟨route, rfl⟩
      · exact ⟨h.threshold_eq, h.index_eq, h.places_eq, Phase.noConfusion, Phase.noConfusion,
          fun _ => Phase.noConfusion⟩
      · exact ⟨h.threshold_eq, rfl, rfl, Phase.noConfusion, Phase.noConfusion,
          fun _ => Phase.noConfusion⟩
  | unmounted =>
      rw [unmount_eq]
      exact ⟨h.threshold_eq, rfl, rfl, Phase.noConfusion, fun _ => rfl, fun _ => Phase.noConfusion⟩
  | applied outcome hloading => exact derived_settled h outcome

theorem derived_after (route : Route) (threshold : Binary64) (events : List Event) :
    Derived (after route threshold events).dashboard threshold :=
  (run_induction (P := fun k => Derived k.dashboard threshold)
    (fun _ h e => derived_effect h e) (linked_start route threshold)
    ⟨rfl, rfl, rfl, Phase.noConfusion, fun _ => rfl, fun _ => Phase.noConfusion⟩ events).2

end Scene

theorem foundPlaces_nodup (s : Snapshot) (query : String) (threshold : Binary64) :
    (foundPlaces s query threshold).Nodup := Search.Index.nodup_hits_index _ _ query

theorem foundPlaces_lt (s : Snapshot) (query : String) (threshold : Binary64) :
    ∀ place ∈ foundPlaces s query threshold, place < s.waybills.length := by
  have h := Search.Index.hits_index_lt (.build s.waybills threshold) Search.distance query
  rwa [Search.Index.size, Search.Index.build, List.length_map] at h

/-- To filter places by their Waybills is to filter the Waybills. -/
theorem filterMap_filter_any (waybills : List Waybill) (p : Waybill → Bool) (places : List Nat) :
    (places.filter fun place => (waybills[place]?).any p).filterMap (waybills[·]?) =
      (places.filterMap (waybills[·]?)).filter p := by
  rw [List.filterMap_filter, List.filter_filterMap]
  congr 1
  funext place
  cases waybills[place]? with
  | none => rfl
  | some w => simp [Option.filter]

/-- All places of a list, looked up. -/
theorem filterMap_range (waybills : List Waybill) :
    (List.range waybills.length).filterMap (waybills[·]?) = waybills := by
  induction waybills with
  | nil => rfl
  | cons w waybills ih =>
      rw [List.length_cons, List.range_succ_eq_map, List.filterMap_cons_some List.getElem?_cons_zero,
        List.filterMap_map]
      exact congrArg (w :: ·) ih

theorem foundPlaces_blank (s : Snapshot) {query : String} (threshold : Binary64)
    (h : Search.normalized query = []) :
    foundPlaces s query threshold = List.range s.waybills.length := by
  rw [foundPlaces, Search.Index.search, Search.Index.hits_blank _ _ h, List.map_map,
    Search.Index.size_build]
  exact List.map_id _

/-- Without a query and a filter everything that lands is shown, in its order. -/
theorem visible_settled {d : Dashboard} (hquery : Search.normalized d.query = [])
    (hfilter : d.filter = .all) (s : Snapshot) : (d.settled (.ok s)).visible = s.waybills := by
  have hvisible : (d.settled (.ok s)).visible =
      ((foundPlaces s d.query d.threshold).filterMap (s.waybills[·]?)).filter d.filter.admits :=
    filterMap_filter_any s.waybills d.filter.admits _
  rw [hvisible, foundPlaces_blank s d.threshold hquery, filterMap_range, hfilter]
  exact List.filter_eq_self.mpr fun _ _ => rfl

/-- What a dashboard shows is what a search of its snapshot gives now. -/
structure UpToDate (d : Dashboard) (threshold : Binary64) : Prop where
  index_iff : d.index.isSome ↔ d.snapshot.isSome
  index_eq : ∀ s, d.snapshot = some s → d.index = some (.build s.waybills threshold)
  ready : d.phase = .ready → d.snapshot.isSome
  idle : d.phase = .idle → d.snapshot = none
  failed : ∀ e, d.phase = .failed e → d.snapshot = none
  found_nodup : ∀ s, d.snapshot = some s → (foundPlaces s d.query threshold).Nodup
  found_lt : ∀ s, d.snapshot = some s →
    ∀ place ∈ foundPlaces s d.query threshold, place < s.waybills.length
  places_eq : ∀ s, d.snapshot = some s →
    d.visiblePlaces = (foundPlaces s d.query threshold).filter fun place =>
      (s.waybills[place]?).any d.filter.admits
  visible_eq : ∀ s, d.snapshot = some s →
    d.visible = ((foundPlaces s d.query threshold).filterMap (s.waybills[·]?)).filter
      d.filter.admits
  visible_none : d.snapshot = none → d.visible = []

theorem up_to_date (route : Route) (threshold : Binary64) (events : List Event) :
    UpToDate (Scene.after route threshold events).dashboard threshold := by
  have h := Scene.derived_after route threshold events
  generalize (Scene.after route threshold events).dashboard = d at h
  have hplaces : ∀ s, d.snapshot = some s →
      d.visiblePlaces = placesOf s (.build s.waybills threshold) d.query d.filter := by
    intro s hs
    have hindex := h.index_eq
    rw [hs, Option.map_some] at hindex
    simpa only [updateVisible, hs, hindex] using h.places_eq
  refine ⟨?_, ?_, h.ready, h.idle, h.failed, ?_, ?_, hplaces, ?_, ?_⟩
  · rw [h.index_eq, Option.isSome_map]
  · intro s hs
    rw [h.index_eq, hs, Option.map_some]
  · exact fun s _ => foundPlaces_nodup s d.query threshold
  · exact fun s _ => foundPlaces_lt s d.query threshold
  · intro s hs
    simp only [visible, hs, hplaces s hs]
    exact filterMap_filter_any s.waybills d.filter.admits _
  · intro hs
    simp only [visible, hs]

/-- A query that was typed before the snapshot came leaves one of three Waybills out, and a filter
that was set after it another one. -/
theorem up_to_date_fetched :
    let waybill (ns : String) (lastRun : Option Run) : Waybill :=
      { identity := { namespaceName := ns }, lastRun }
    let s : Snapshot := ⟨.all, [waybill "billing" (some {}), waybill "mail" none,
      waybill "bill" none], "", .epoch⟩
    let d := (Scene.after .all Search.defaultThreshold [.refresh, .setQuery "bill",
      .complete 1 (.ok s), .setFilter (.only .pending)]).dashboard
    d.snapshot = some s ∧ (foundPlaces s d.query Search.defaultThreshold).Perm [0, 2] ∧
      d.visible = [waybill "bill" none] := by
  intro waybill s d
  have h := up_to_date .all Search.defaultThreshold [.refresh, .setQuery "bill",
    .complete 1 (.ok s), .setFilter (.only .pending)]
  have hfound : (foundPlaces s "bill" Search.defaultThreshold).Perm [0, 2] := by
    have hquery : Search.normalized "bill" ≠ [] := by decide
    have hhits := Search.Index.hits_perm (i := .build s.waybills Search.defaultThreshold)
      Search.distance hquery
    exact (hhits.map Search.Hit.index).trans (.of_eq (by decide +kernel))
  refine ⟨rfl, hfound, List.perm_singleton.mp ?_⟩
  rw [h.visible_eq s rfl]
  exact (hfound.filterMap _).filter _

end WaybillBoard.Dashboard
