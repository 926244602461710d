import Mathlib.Logic.Function.Iterate
import WaybillBoard.Board.Theme
import WaybillBoard.Proofs.Dashboard.Visible

/-!
Outcomes partition what a dashboard shows. Whatever it searches for, each visible Waybill is shown
under the filter of one outcome and no other; without a query there are as many under each as the
summary counts, and five turns through the filters lead back to where they began.
-/

namespace WaybillBoard

/-! ### One Waybill -/

/-- The color in which an outcome is shown. -/
def Outcome.color : Outcome → StatusColor
  | .pending => .neutral
  | .failure => .failure
  | .warning => .success
  | .success => .success

theorem Outcome.of_eq_pending_iff (w : Waybill) : Outcome.of w = .pending ↔ w.lastRun = none := by
  unfold Outcome.of
  cases w.lastRun with
  | none => exact iff_of_true rfl rfl
  | some run =>
      refine iff_of_false ?_ nofun
      dsimp only
      split
      · exact nofun
      · split <;> exact nofun

theorem Outcome.color_of (w : Waybill) : (Outcome.of w).color = StatusColor.of w := by
  unfold Outcome.of StatusColor.of
  cases w.lastRun with
  | none => rfl
  | some run =>
      cases hsuccess : run.success with
      | false => simp [hsuccess, Outcome.color]
      | true =>
          simp only [hsuccess, Bool.not_true, Bool.false_eq_true, if_false, if_true]
          split <;> rfl

/-- Outcome and color of a Waybill, as the board draws them. -/
structure ColoredByOutcome (w : Waybill) : Prop where
  pending_iff : Outcome.of w = .pending ↔ w.lastRun = none
  neutral_iff : Outcome.of w = .pending ↔ StatusColor.of w = .neutral
  failure_iff : Outcome.of w = .failure ↔ StatusColor.of w = .failure
  success_iff : Outcome.of w = .warning ∨ Outcome.of w = .success ↔ StatusColor.of w = .success
  gray_iff : Outcome.of w = .pending ↔ Board.Theme.status (StatusColor.of w) = .colored .gray
  red_iff : Outcome.of w = .failure ↔ Board.Theme.status (StatusColor.of w) = .colored .red
  green_iff : Outcome.of w = .warning ∨ Outcome.of w = .success ↔
    Board.Theme.status (StatusColor.of w) = .colored .green

theorem coloredByOutcome (w : Waybill) : ColoredByOutcome w := by
  have hpending := Outcome.of_eq_pending_iff w
  have hcolor := Outcome.color_of w
  refine ⟨hpending, ?_, ?_, ?_, ?_, ?_, ?_⟩ <;> rw [← hcolor] <;> cases Outcome.of w <;> decide

theorem OutcomeFilter.next_five (f : OutcomeFilter) : OutcomeFilter.next^[5] f = f := by
  cases f with
  | all => rfl
  | only outcome => cases outcome <;> rfl

/-- Every Waybill is counted once. -/
theorem Summary.sum_of (waybills : List Waybill) :
    let s := Summary.of waybills
    s.pending + s.failure + s.warning + s.success = s.total := by
  simp only [Summary.of, Summary.count]
  induction waybills with
  | nil => rfl
  | cons w waybills ih =>
      simp only [List.countP_cons, List.length_cons]
      cases Outcome.of w <;> simp only [decide_true, decide_false, reduceCtorEq] <;> grind

/-- The count of what a filter admits. -/
def Summary.shown (s : Summary) : OutcomeFilter → Nat
  | .all => s.total
  | .only .pending => s.pending
  | .only .failure => s.failure
  | .only .warning => s.warning
  | .only .success => s.success

theorem Summary.shown_of (waybills : List Waybill) (f : OutcomeFilter) :
    (Summary.of waybills).shown f = (waybills.filter f.admits).length := by
  rw [← List.countP_eq_length_filter]
  cases f with
  | all => exact congrFun List.countP_true.symm waybills
  | only outcome => cases outcome <;> rfl

namespace Dashboard

/-! ### Filters -/

/-- The Waybill that stands at a place of the snapshot. -/
def waybillAt? (d : Dashboard) (place : Nat) : Option Waybill :=
  d.snapshot.bind fun s => s.waybills[place]?

/-- Of what is shown without a filter, a filter leaves the places whose Waybills it admits. -/
theorem visiblePlaces_setFilter (d : Dashboard) (f : OutcomeFilter) :
    (d.setFilter f).visiblePlaces =
      (d.setFilter .all).visiblePlaces.filter fun place => (d.waybillAt? place).any f.admits := by
  simp only [setFilter, updateVisible, waybillAt?]
  cases d.snapshot with
  | none => rfl
  | some s =>
      cases d.index with
      | none => rfl
      | some index =>
          simp only [placesOf, List.filter_filter, Option.bind_some]
          congr 1
          funext place
          cases s.waybills[place]? with
          | none => rfl
          | some w => simp [OutcomeFilter.admits]

theorem exists_waybillAt {d : Dashboard} {f : OutcomeFilter} {place : Nat}
    (h : place ∈ (d.setFilter f).visiblePlaces) :
    ∃ w, d.waybillAt? place = some w ∧ f.admits w = true := by
  rw [visiblePlaces_setFilter, List.mem_filter] at h
  exact (Option.any_eq_true _ _).mp h.2

theorem visible_setFilter (d : Dashboard) (f : OutcomeFilter) :
    (d.setFilter f).visible = (d.setFilter .all).visible.filter f.admits := by
  cases hs : d.snapshot with
  | none =>
      have hvisible (f : OutcomeFilter) : (d.setFilter f).visible = [] := by
        simp only [visible, setFilter, updateVisible, hs]
      rw [hvisible, hvisible, List.filter_nil]
  | some s =>
      have hvisible (f : OutcomeFilter) : (d.setFilter f).visible =
          (d.setFilter f).visiblePlaces.filterMap (s.waybills[·]?) := by
        simp only [visible, setFilter, updateVisible, hs]
      have hat : d.waybillAt? = (s.waybills[·]?) := by
        funext place
        simp only [waybillAt?, hs, Option.bind_some]
      rw [hvisible, hvisible, visiblePlaces_setFilter, hat]
      exact filterMap_filter_any s.waybills f.admits _

theorem rows_setFilter (d : Dashboard) (outcome : Outcome) (now : Time.Instant) :
    (d.setFilter (.only outcome)).rows now =
      ((d.setFilter .all).rows now).filter fun p => p.outcome = outcome := by
  have hvisible := visible_setFilter d (.only outcome)
  cases hs : d.snapshot with
  | none => simp only [rows, setFilter, updateVisible, hs, List.filter_nil]
  | some s =>
      have hsnapshot (f : OutcomeFilter) : (d.setFilter f).snapshot = some s := hs
      simp only [rows, hsnapshot, hvisible, List.filter_map]
      rfl

theorem mem_visiblePlaces_only {d : Dashboard} {outcome : Outcome} {place : Nat} :
    place ∈ (d.setFilter (.only outcome)).visiblePlaces ↔
      place ∈ (d.setFilter .all).visiblePlaces ∧
        ∃ w, d.waybillAt? place = some w ∧ Outcome.of w = outcome := by
  rw [visiblePlaces_setFilter, List.mem_filter, Option.any_eq_true]
  simp only [OutcomeFilter.admits, decide_eq_true_eq]

theorem mem_visible_only {d : Dashboard} {outcome : Outcome} {w : Waybill} :
    w ∈ (d.setFilter (.only outcome)).visible ↔
      w ∈ (d.setFilter .all).visible ∧ Outcome.of w = outcome := by
  rw [visible_setFilter, List.mem_filter, OutcomeFilter.admits, decide_eq_true_eq]

/-- A place is listed under the outcome of the Waybill that stands there. -/
theorem outcome_of_mem_visiblePlaces {d : Dashboard} {outcome : Outcome} {place : Nat}
    {w : Waybill} (hw : d.waybillAt? place = some w)
    (h : place ∈ (d.setFilter (.only outcome)).visiblePlaces) : Outcome.of w = outcome := by
  obtain ⟨-, w', hw', hof⟩ := mem_visiblePlaces_only.mp h
  obtain rfl := Option.some.inj (hw.symm.trans hw')
  exact hof

/-- The lists of the outcomes are parts of the list of all, and each row of it is in one. -/
structure PartitionedByOutcome (d : Dashboard) : Prop where
  places_sublist : ∀ outcome, (d.setFilter (.only outcome)).visiblePlaces.Sublist
    (d.setFilter .all).visiblePlaces
  visible_sublist : ∀ outcome, (d.setFilter (.only outcome)).visible.Sublist
    (d.setFilter .all).visible
  places_disjoint : ∀ outcome other, outcome ≠ other →
    (d.setFilter (.only outcome)).visiblePlaces.Disjoint (d.setFilter (.only other)).visiblePlaces
  visible_disjoint : ∀ outcome other, outcome ≠ other →
    (d.setFilter (.only outcome)).visible.Disjoint (d.setFilter (.only other)).visible
  place_in_one : ∀ place ∈ (d.setFilter .all).visiblePlaces,
    ∃! outcome, place ∈ (d.setFilter (.only outcome)).visiblePlaces
  visible_in_one : ∀ w ∈ (d.setFilter .all).visible,
    ∃! outcome, w ∈ (d.setFilter (.only outcome)).visible
  rows_eq : ∀ outcome now, (d.setFilter (.only outcome)).rows now =
    ((d.setFilter .all).rows now).filter fun p => p.outcome = outcome

theorem partitionedByOutcome (d : Dashboard) : PartitionedByOutcome d := by
  refine ⟨?_, ?_, ?_, ?_, ?_, ?_, rows_setFilter d⟩
  · intro outcome
    rw [visiblePlaces_setFilter]
    exact List.filter_sublist
  · intro outcome
    rw [visible_setFilter]
    exact List.filter_sublist
  · intro outcome other hne place hplace hother
    obtain ⟨w, hw, -⟩ := exists_waybillAt hplace
    exact hne ((outcome_of_mem_visiblePlaces hw hplace).symm.trans
      (outcome_of_mem_visiblePlaces hw hother))
  · intro outcome other hne w hw hother
    exact hne ((mem_visible_only.mp hw).2.symm.trans (mem_visible_only.mp hother).2)
  · intro place hplace
    obtain ⟨w, hw, -⟩ := exists_waybillAt hplace
    exact ⟨Outcome.of w, mem_visiblePlaces_only.mpr ⟨hplace, w, hw, rfl⟩,
      fun outcome h => (outcome_of_mem_visiblePlaces hw h).symm⟩
  · intro w hw
    exact ⟨Outcome.of w, mem_visible_only.mpr ⟨hw, rfl⟩,
      fun outcome h => (mem_visible_only.mp h).2.symm⟩

/-! ### Turning through the filters -/

theorem iterate_cycleFilter (d : Dashboard) (f : OutcomeFilter) (n : Nat) :
    cycleFilter^[n] (d.setFilter f) = d.setFilter (OutcomeFilter.next^[n] f) := by
  induction n with
  | zero => rfl
  | succ n ih =>
      rw [Function.iterate_succ_apply', ih, Function.iterate_succ_apply']
      rfl

section Derived

variable {d : Dashboard} {threshold : Binary64} (h : Derived d threshold)
include h

theorem setFilter_self : d.setFilter d.filter = d := by
  have hplaces := h.places_eq
  unfold setFilter
  cases d
  simp only [updateVisible] at hplaces ⊢
  rw [← hplaces]

theorem cycleFilter_five : cycleFilter^[5] d = d := by
  have hcycle := iterate_cycleFilter d d.filter 5
  rwa [OutcomeFilter.next_five, setFilter_self h] at hcycle

/-- Without a query every filter leaves what it admits of the whole snapshot. -/
theorem visible_setFilter_blank (hquery : Search.normalized d.query = []) {s : Snapshot}
    (hs : d.snapshot = some s) (f : OutcomeFilter) :
    (d.setFilter f).visible = s.waybills.filter f.admits := by
  have hindex := h.index_eq
  rw [hs, Option.map_some] at hindex
  have hvisible : (d.setFilter f).visible =
      ((foundPlaces s d.query threshold).filterMap (s.waybills[·]?)).filter f.admits := by
    simp only [visible, setFilter, updateVisible, hs, hindex]
    exact filterMap_filter_any s.waybills f.admits _
  rw [hvisible, foundPlaces_blank s threshold hquery, filterMap_range]

end Derived

/-- The summary counts every Waybill of the snapshot once, and so many are shown without a query. -/
structure CountedByOutcome (d : Dashboard) : Prop where
  sum_eq : d.summary.pending + d.summary.failure + d.summary.warning + d.summary.success =
    d.summary.total
  total_eq : d.summary.total = (d.snapshot.map fun s => s.waybills.length).getD 0
  length_eq : Search.normalized d.query = [] →
    ∀ f, (d.setFilter f).visible.length = d.summary.shown f

theorem countedByOutcome {d : Dashboard} {threshold : Binary64} (h : Derived d threshold) :
    CountedByOutcome d := by
  refine ⟨Summary.sum_of _, ?_, fun hquery f => ?_⟩
  · rw [summary]
    cases d.snapshot <;> rfl
  · cases hs : d.snapshot with
    | none =>
        have hvisible : (d.setFilter f).visible = [] := by
          simp only [visible, setFilter, updateVisible, hs]
        simp only [hvisible, summary, hs, Summary.shown_of, List.filter_nil]
    | some s =>
        simp only [visible_setFilter_blank h hquery hs, summary, hs, Summary.shown_of]

/-- At every moment of every run, whatever the dashboard then searches for and filters by. -/
theorem outcomes_partition (route : Route) (threshold : Binary64) (events : List Event) :
    let d := (Scene.after route threshold events).dashboard
    PartitionedByOutcome d ∧ CountedByOutcome d ∧ cycleFilter^[5] d = d ∧
      ∀ w, ColoredByOutcome w :=
  have h := Scene.derived_after route threshold events
  ⟨partitionedByOutcome _, countedByOutcome h, cycleFilter_five h, coloredByOutcome⟩

/-- Two failures and a success with a warning, beside a blank query and another filter. -/
theorem outcomes_partition_failures :
    let ran (success : Bool) (output : String) : Waybill := { lastRun := some { success, output } }
    let s : Snapshot :=
      ⟨.all, [ran false "", ran true " Warning: old", {}, ran false "Warning: old"], "", .epoch⟩
    let d := (Scene.after .all Search.defaultThreshold
      [.refresh, .complete 1 (.ok s), .setQuery " ", .setFilter (.only .warning)]).dashboard
    Search.normalized d.query = [] ∧ d.summary = ⟨4, 1, 2, 1, 0⟩ ∧
      (d.setFilter (.only .failure)).visible.length = 2 := by
  intro ran s d
  have hquery : Search.normalized d.query = [] := by decide +kernel
  have hsummary : d.summary = ⟨4, 1, 2, 1, 0⟩ := by decide +kernel
  refine ⟨hquery, hsummary, ?_⟩
  have hcounted := (outcomes_partition .all Search.defaultThreshold
    [.refresh, .complete 1 (.ok s), .setQuery " ", .setFilter (.only .warning)]).2.1
  have hlength := hcounted.length_eq hquery (.only .failure)
  rwa [hsummary] at hlength

end Dashboard

end WaybillBoard
