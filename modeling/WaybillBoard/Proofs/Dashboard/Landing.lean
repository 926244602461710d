import WaybillBoard.Proofs.Dashboard.Expansion
import WaybillBoard.Proofs.Dashboard.Scene

/-!
Landing and adjusting. The user may narrow and unfold what is shown before a snapshot lands or
after it: the dashboard is the same in the end, even when old rows stayed in between.
-/

namespace WaybillBoard

namespace Dashboard

/-- Events by which the user narrows or unfolds what is shown. -/
def Event.adjusts : Event → Bool
  | .setQuery _ | .setFilter _ | .cycleFilter | .toggle _ => true
  | _ => false

/-- Only namespaces of the snapshot are toggled: for the others a landing forgets it. -/
def Event.TogglesIn (s : Snapshot) : Event → Prop
  | .toggle ns => s.holds ns = true
  | _ => True

theorem isExpanded_settled (d : Dashboard) {s : Snapshot} {ns : String} (h : s.holds ns = true) :
    (d.settled (.ok s)).isExpanded ns = d.isExpanded ns :=
  congrArg (·.getD (d.mode = .single)) (d.expansion.get?_filter h)

theorem settled_toggle (d : Dashboard) {s : Snapshot} {ns : String} (h : s.holds ns = true) :
    (d.toggle ns).settled (.ok s) = (d.settled (.ok s)).toggle ns := by
  have hset := d.expansion.filter_set (!d.isExpanded ns) h
  rw [toggle, toggle, isExpanded_settled d h]
  simp only [settled, display, updateVisible, hset]

namespace Scene

theorem adjust_keeps (k : Scene) {e : Event} (h : e.adjusts = true) :
    (k.step e).dashboard.generation = k.dashboard.generation ∧
      (k.step e).dashboard.phase = k.dashboard.phase ∧
      (k.step e).dashboard.snapshot = k.dashboard.snapshot := by
  cases e with
  | setQuery | setFilter | cycleFilter | toggle => exact ⟨rfl, rfl, rfl⟩
  | _ => cases h

theorem step_land {k : Scene} (h : k.dashboard.phase = .loading) (s : Snapshot) :
    k.step (.complete k.dashboard.generation (.ok s)) =
      { k with
        dashboard := k.dashboard.settled (.ok s)
        log := .applied k.dashboard.generation (.ok s) :: k.log } := by
  rw [step, complete_eq, if_pos ⟨rfl, h⟩]
  rfl

theorem adjust_land {k : Scene} (hloading : k.dashboard.phase = .loading) {s : Snapshot}
    {e : Event} (hadjusts : e.adjusts = true) (hin : e.TogglesIn s) :
    (k.step e).step (.complete k.dashboard.generation (.ok s)) =
      (k.step (.complete k.dashboard.generation (.ok s))).step e := by
  obtain ⟨hgeneration, hphase, -⟩ := adjust_keeps k hadjusts
  rw [← hgeneration, step_land (hphase.trans hloading), hgeneration, step_land hloading]
  cases e with
  | setQuery | setFilter | cycleFilter => rfl
  | toggle ns =>
      simp only [step]
      rw [settled_toggle k.dashboard hin]
  | _ => cases hadjusts

theorem run_land {k : Scene} (hloading : k.dashboard.phase = .loading) {s : Snapshot}
    {events : List Event} (hadjusts : ∀ e ∈ events, e.adjusts = true)
    (hin : ∀ e ∈ events, e.TogglesIn s) :
    (k.run events).step (.complete k.dashboard.generation (.ok s)) =
      (k.step (.complete k.dashboard.generation (.ok s))).run events := by
  induction events generalizing k with
  | nil => rfl
  | cons e events ih =>
      obtain ⟨he, hevents⟩ := List.forall_mem_cons.mp hadjusts
      obtain ⟨hein, hin⟩ := List.forall_mem_cons.mp hin
      obtain ⟨hgeneration, hphase, -⟩ := adjust_keeps k he
      have hrest := ih (hphase.trans hloading) hevents hin
      rw [hgeneration, adjust_land hloading he hein] at hrest
      exact hrest

/-- A snapshot that lands after adjustments might as well have landed before them all. -/
theorem landing_anywhere {k : Scene} (hloading : k.dashboard.phase = .loading) (s : Snapshot)
    {before : List Event} (hadjusts : ∀ e ∈ before, e.adjusts = true)
    (hin : ∀ e ∈ before, e.TogglesIn s) (after : List Event) :
    let land := Event.complete k.dashboard.generation (.ok s)
    (k.step land).dashboard.phase = .ready ∧ (k.step land).dashboard.snapshot = some s ∧
      k.run (before ++ land :: after) = k.run (land :: (before ++ after)) := by
  refine ⟨by rw [step_land hloading]; rfl, by rw [step_land hloading]; rfl, ?_⟩
  have hbefore := run_land hloading hadjusts hin
  calc k.run (before ++ .complete k.dashboard.generation (.ok s) :: after)
      = ((k.run before).step (.complete k.dashboard.generation (.ok s))).run after :=
        run_append k before _
    _ = ((k.step (.complete k.dashboard.generation (.ok s))).run before).run after := by
        rw [hbefore]
    _ = k.run (.complete k.dashboard.generation (.ok s) :: (before ++ after)) :=
        (run_append _ before after).symm

/-- While the old rows are still shown, one is narrowed to and unfolded that stays. -/
theorem landing_anywhere_stale :
    let waybill (ns : String) : Waybill := { identity := { namespaceName := ns } }
    let old : Snapshot := ⟨.all, [waybill "a", waybill "b"], "", .epoch⟩
    let new : Snapshot := ⟨.all, [waybill "b"], "", .epoch⟩
    let k := after .all Search.defaultThreshold
      [.refresh, .complete 1 (.ok old), .toggle "a", .refresh]
    k.dashboard.phase = .loading ∧
      k.run [.setQuery "b", .toggle "b", .complete 2 (.ok new), .toggle "a"] =
        k.run [.complete 2 (.ok new), .setQuery "b", .toggle "b", .toggle "a"] := by
  intro waybill old new k
  have hin : ∀ e ∈ [Event.setQuery "b", .toggle "b"], e.TogglesIn new := by
    simp [Event.TogglesIn, Snapshot.holds, Waybill.namespaceName, new, waybill]
  exact ⟨rfl, (landing_anywhere (k := k) rfl new (by simp [Event.adjusts]) hin [.toggle "a"]).2.2⟩

end Scene

end Dashboard

end WaybillBoard
