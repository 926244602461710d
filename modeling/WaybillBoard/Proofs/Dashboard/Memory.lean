import Mathlib.Data.List.Induction
import WaybillBoard.Proofs.Dashboard.Toggling

/-!
What is remembered of a namespace: whether it was last chosen to be expanded or not, until the
route is changed or a snapshot without the namespace lands. So what is expanded is a function of
the history, in which the map is not mentioned.
-/

namespace WaybillBoard.Dashboard

/-- An event with the scene that it meets. -/
structure Moment where
  scene : Scene
  event : Event

/-- The moments of a run, the first one first. -/
def Scene.moments (k : Scene) : List Event → List Moment
  | [] => []
  | e :: events => ⟨k, e⟩ :: (k.step e).moments events

theorem Scene.moments_append (k : Scene) (events later : List Event) :
    k.moments (events ++ later) = k.moments events ++ (k.run events).moments later := by
  induction events generalizing k with
  | nil => rfl
  | cons e events ih => exact congrArg (Moment.mk k e :: ·) (ih (k.step e))

namespace Moment

def next (m : Moment) : Scene := m.scene.step m.event

/-- The snapshot that lands, if one does. -/
def landing? (m : Moment) : Option Snapshot :=
  match m.event with
  | .complete generation (.ok s) =>
    if (m.scene.dashboard.complete generation (.ok s)).2 then some s else none
  | .poll =>
    match m.scene.dashboard.arrived? with
    | some (_, .ok s) => if m.scene.dashboard.poll.2 then some s else none
    | _ => none
  | _ => none

/-- Is another view asked for? -/
def leaves (m : Moment) : Bool :=
  match m.event with
  | .navigate route => (m.scene.dashboard.navigate route).2.isSome
  | _ => false

/-- What was chosen for a namespace does not count any more. -/
def forgets (m : Moment) (ns : String) : Bool := m.leaves || m.landing?.any fun s => !s.holds ns

/-- What is chosen for a namespace: by a toggle the contrary of what it was, and for all at once
when the snapshot that is held has it. -/
def chosen? (m : Moment) (ns : String) : Option Bool :=
  match m.event with
  | .toggle name => if name = ns then some !m.scene.dashboard.isExpanded ns else none
  | .setAllExpanded expanded =>
    if m.scene.dashboard.snapshot.any (·.holds ns) then some expanded else none
  | _ => none

/-- A request, a failure, an unmount, another query or filter, or something about a task or a
ticket: anything but a choice, a change of the route or a snapshot. -/
def Passes (m : Moment) : Prop :=
  match m.event with
  | .navigate _ | .toggle _ | .setAllExpanded _ | .complete _ (.ok _) => False
  | .poll => ∀ generation s, m.scene.dashboard.arrived? ≠ some (generation, .ok s)
  | _ => True

/-- What becomes of a namespace at a moment. -/
inductive Turn (m : Moment) (ns : String) : Prop
  | kept (hforgets : m.forgets ns = false) (hchosen : m.chosen? ns = none)
      (hmode : m.next.dashboard.mode = m.scene.dashboard.mode)
      (hsame : m.next.dashboard.isExpanded ns = m.scene.dashboard.isExpanded ns)
  | chosen {expanded : Bool} (hforgets : m.forgets ns = false)
      (hchosen : m.chosen? ns = some expanded)
      (hmode : m.next.dashboard.mode = m.scene.dashboard.mode)
      (hset : m.next.dashboard.isExpanded ns = expanded)
  | forgotten (hforgets : m.forgets ns = true)
      (hdefault : m.next.dashboard.isExpanded ns = decide (m.next.dashboard.mode = .single))

theorem Turn.beside {m : Moment} {ns : String} {f : Dashboard → Dashboard} (hf : Beside f)
    (hforgets : m.forgets ns = false) (hchosen : m.chosen? ns = none)
    (hnext : m.next.dashboard = f m.scene.dashboard) : Turn m ns := by
  refine .kept hforgets hchosen ?_ ?_
  · rw [hnext, hf.mode]
  · rw [hnext, hf.isExpanded]

/-- A snapshot that lands keeps the choices for its own namespaces. -/
theorem Turn.landed {m : Moment} {ns : String} {s : Snapshot} (hleaves : m.leaves = false)
    (hlanding : m.landing? = some s) (hchosen : m.chosen? ns = none)
    (hnext : m.next.dashboard = m.scene.dashboard.settled (.ok s)) : Turn m ns := by
  cases hin : s.holds ns with
  | true =>
      refine .kept (by simp [forgets, hleaves, hlanding, hin]) hchosen ?_ ?_
      · rw [hnext]
        rfl
      · rw [hnext, isExpanded_settled _ hin]
  | false =>
      refine .forgotten (by simp [forgets, hlanding, hin]) ?_
      rw [hnext, isExpanded_settled_of_not_holds _ hin]
      rfl

theorem beside_failed (e : FetchError) : Beside (·.settled (.error e)) :=
  ⟨fun _ _ => rfl, fun _ => rfl⟩

theorem beside_self : Beside id := ⟨fun _ _ => rfl, fun _ => rfl⟩

theorem turn_navigate (k : Scene) (route : Route) (ns : String) :
    Turn ⟨k, .navigate route⟩ ns := by
  have hnext : (next ⟨k, .navigate route⟩).dashboard = (k.dashboard.navigate route).1 := by
    simp only [next, Scene.step]
    split
    · next heq => rw [heq]
    · next heq => rw [heq]; rfl
  rw [navigate_eq] at hnext
  by_cases hstay : route = k.dashboard.route ∧ k.dashboard.phase ≠ .idle
  · rw [if_pos hstay] at hnext
    refine .beside beside_self ?_ rfl hnext
    simp only [forgets, leaves, navigate_eq, if_pos hstay]
    rfl
  · rw [if_neg hstay] at hnext
    refine .forgotten ?_ ?_
    · simp only [forgets, leaves, navigate_eq, if_neg hstay]
      rfl
    · rw [hnext, beside_refresh.isExpanded, beside_refresh.mode]
      rfl

theorem turn_complete (k : Scene) (generation : Nat) (outcome : FetchOutcome) (ns : String) :
    Turn ⟨k, .complete generation outcome⟩ ns := by
  have hnext : (next ⟨k, .complete generation outcome⟩).dashboard =
      (k.dashboard.complete generation outcome).1 := rfl
  rw [complete_eq] at hnext
  by_cases hnow : generation = k.dashboard.generation ∧ k.dashboard.phase = .loading
  · rw [if_pos hnow] at hnext
    cases outcome with
    | error e => exact .beside (beside_failed e) rfl rfl hnext
    | ok s => exact .landed rfl (by simp [landing?, complete_eq, hnow]) rfl hnext
  · rw [if_neg hnow] at hnext
    refine .beside beside_self ?_ rfl hnext
    cases outcome with
    | error e => rfl
    | ok s => simp [forgets, leaves, landing?, complete_eq, hnow]

theorem turn_poll (k : Scene) (ns : String) : Turn ⟨k, .poll⟩ ns := by
  have hnext : (next ⟨k, .poll⟩).dashboard = k.dashboard.poll.1 := by
    simp only [next, Scene.step]
    split <;> rfl
  cases harrived : k.dashboard.arrived? with
  | none =>
      rw [poll_of_none harrived] at hnext
      refine .beside beside_self ?_ rfl hnext
      simp [forgets, leaves, landing?, harrived]
  | some found =>
      obtain ⟨generation, outcome⟩ := found
      have hpoll := poll_of_some harrived
      rw [hpoll, complete_eq] at hnext
      by_cases hnow : generation = k.dashboard.generation ∧ k.dashboard.phase = .loading
      · rw [if_pos hnow] at hnext
        cases outcome with
        | error e =>
            refine .beside (beside_failed e) ?_ rfl hnext
            simp [forgets, leaves, landing?, harrived]
        | ok s =>
            refine .landed rfl ?_ rfl hnext
            simp [landing?, harrived, hpoll, complete_eq, hnow]
      · rw [if_neg hnow] at hnext
        have hidle : Beside fun d => { d with inFlight := none } := ⟨fun _ _ => rfl, fun _ => rfl⟩
        refine .beside hidle ?_ rfl hnext
        cases outcome with
        | error e => simp [forgets, leaves, landing?, harrived]
        | ok s => simp [forgets, leaves, landing?, harrived, hpoll, complete_eq, hnow]

theorem turn_toggle (k : Scene) (name ns : String) : Turn ⟨k, .toggle name⟩ ns := by
  have hset := k.dashboard.isExpanded_toggle name ns
  by_cases same : name = ns
  · subst same
    rw [if_pos rfl] at hset
    exact .chosen rfl (if_pos rfl) rfl hset
  · rw [if_neg (Ne.symm same)] at hset
    exact .kept rfl (if_neg same) rfl hset

theorem turn_setAllExpanded (k : Scene) (expanded : Bool) (ns : String) :
    Turn ⟨k, .setAllExpanded expanded⟩ ns := by
  have hset := k.dashboard.isExpanded_setAllExpanded expanded ns
  have hmode : (k.dashboard.setAllExpanded expanded).mode = k.dashboard.mode := by
    obtain ⟨expansion, heq⟩ := setAllExpanded_eq k.dashboard expanded
    rw [heq]
    rfl
  by_cases hin : k.dashboard.snapshot.any (·.holds ns) = true
  · rw [if_pos hin] at hset
    exact .chosen rfl (if_pos hin) hmode hset
  · rw [if_neg hin] at hset
    exact .kept rfl (if_neg hin) hmode hset

theorem turn_use (k : Scene) {e : Event} {ticket : Ticket} {f : Dashboard → Dashboard}
    {ns : String} (hf : Beside f) (hforgets : forgets ⟨k, e⟩ ns = false)
    (hchosen : chosen? ⟨k, e⟩ ns = none)
    (hnext : next ⟨k, e⟩ = if ticket ∈ k.held then
      { k with dashboard := f k.dashboard, held := k.held.erase ticket } else k) :
    Turn ⟨k, e⟩ ns := by
  split at hnext
  · exact .beside hf hforgets hchosen (congrArg Scene.dashboard hnext)
  · exact .beside beside_self hforgets hchosen (congrArg Scene.dashboard hnext)

/-- At every moment a namespace is kept as it was, chosen to be one or the other, or forgotten. -/
theorem turn (m : Moment) (ns : String) : Turn m ns := by
  obtain ⟨k, e⟩ := m
  cases e with
  | refresh => exact .beside beside_refresh rfl rfl rfl
  | navigate route => exact turn_navigate k route ns
  | unmount => exact .beside beside_unmount rfl rfl rfl
  | complete generation outcome => exact turn_complete k generation outcome ns
  | poll => exact turn_poll k ns
  | setQuery | setFilter | cycleFilter => exact .kept rfl rfl rfl rfl
  | toggle name => exact turn_toggle k name ns
  | setAllExpanded expanded => exact turn_setAllExpanded k expanded ns
  | track generation task => exact .beside (beside_track generation task) rfl rfl rfl
  | send ticket outcome =>
      exact turn_use k (beside_deliver ticket.generation outcome) rfl rfl rfl
  | drop ticket => exact turn_use k (beside_abandon ticket.generation) rfl rfl rfl

theorem Passes.forgets {m : Moment} (h : m.Passes) (ns : String) : m.forgets ns = false := by
  obtain ⟨k, e⟩ := m
  cases e with
  | navigate => exact h.elim
  | complete generation outcome =>
      cases outcome with
      | error e => rfl
      | ok s => exact h.elim
  | poll =>
      have hnone : landing? ⟨k, .poll⟩ = none := by
        unfold landing?
        dsimp only
        split
        · next generation s harrived => exact absurd harrived (h generation s)
        · rfl
      rw [Moment.forgets, hnone]
      rfl
  | _ => rfl

theorem Passes.chosen? {m : Moment} (h : m.Passes) (ns : String) : m.chosen? ns = none := by
  obtain ⟨k, e⟩ := m
  cases e with
  | toggle | setAllExpanded => exact h.elim
  | _ => rfl

/-- The latest of the moments that choose for a namespace, among those since the last one that
forgot it. -/
def recalled? (moments : List Moment) (ns : String) : Option Bool :=
  (moments.reverse.takeWhile fun m => !m.forgets ns).findSome? fun m => m.chosen? ns

theorem recalled?_concat (moments : List Moment) (m : Moment) (ns : String) :
    recalled? (moments ++ [m]) ns =
      if m.forgets ns then none else (m.chosen? ns).or (recalled? moments ns) := by
  rw [recalled?, List.reverse_append, List.reverse_singleton, List.singleton_append,
    List.takeWhile_cons]
  cases m.forgets ns with
  | true => rfl
  | false =>
      simp only [Bool.not_false, if_true, Bool.false_eq_true, if_false, List.findSome?_cons]
      cases m.chosen? ns <;> rfl

/-- Nothing is recalled of a namespace that was forgotten and not chosen for since. -/
theorem recalled?_of_forgets {m : Moment} {ns : String} (h : m.forgets ns = true)
    (earlier : List Moment) {later : List Moment} (hlater : ∀ m ∈ later, m.chosen? ns = none) :
    recalled? (earlier ++ m :: later) ns = none := by
  induction later using List.reverseRecOn with
  | nil => rw [recalled?_concat, if_pos h]
  | append_singleton later m' ih =>
      rw [List.forall_mem_append, List.forall_mem_singleton] at hlater
      have hsplit : earlier ++ m :: (later ++ [m']) = (earlier ++ m :: later) ++ [m'] := by simp
      rw [hsplit, recalled?_concat, ih hlater.1, hlater.2]
      split <;> rfl

end Moment

namespace Scene

open Moment (recalled? recalled?_concat recalled?_of_forgets turn)

/-- What the map holds is what the history tells. -/
theorem isExpanded_after (route : Route) (threshold : Binary64) (events : List Event)
    (ns : String) :
    let d := (after route threshold events).dashboard
    d.isExpanded ns =
      (recalled? ((start route threshold).moments events) ns).getD (d.mode = .single) := by
  induction events using List.reverseRecOn with
  | nil => rfl
  | append_singleton events e ih =>
      have hafter : after route threshold (events ++ [e]) = (after route threshold events).step e :=
        run_append _ _ _
      have hmoments : (start route threshold).moments (events ++ [e]) =
          (start route threshold).moments events ++ [⟨after route threshold events, e⟩] :=
        moments_append _ _ _
      simp only [hafter, hmoments, recalled?_concat]
      rcases turn ⟨after route threshold events, e⟩ ns with
        ⟨hforgets, hchosen, hmode, hsame⟩ | ⟨hforgets, hchosen, hmode, hset⟩ | ⟨hforgets, hdefault⟩
      · rw [hforgets, hchosen]
        exact hsame.trans (ih.trans (by rw [hmode.symm]; rfl))
      · rw [hforgets, hchosen]
        exact hset
      · rw [hforgets]
        exact hdefault

/-- What is expanded is decided by the latest choice that counts, and by the route where there is
none; other events do not matter, and a namespace that went begins anew when it is back. -/
theorem latest_choice_counts (route : Route) (threshold : Binary64) (events : List Event)
    (ns : String) :
    let k := after route threshold events
    let past := (start route threshold).moments events
    (k.dashboard.isExpanded ns = (recalled? past ns).getD (k.dashboard.mode = .single)) ∧
    (∀ e, Moment.Passes ⟨k, e⟩ →
      (k.step e).dashboard.isExpanded ns = k.dashboard.isExpanded ns) ∧
    ∀ e s later, Moment.landing? ⟨k, e⟩ = some s → s.holds ns = false →
      (∀ m ∈ (k.step e).moments later, m.chosen? ns = none) →
      let d := (k.run (e :: later)).dashboard
      d.isExpanded ns = decide (d.mode = .single) := by
  intro k past
  refine ⟨isExpanded_after route threshold events ns, ?_, ?_⟩
  · intro e hpasses
    rcases turn ⟨k, e⟩ ns with ⟨-, -, -, hsame⟩ | ⟨-, hchosen, -, -⟩ | ⟨hforgets, -⟩
    · exact hsame
    · cases hchosen.symm.trans (hpasses.chosen? ns)
    · cases hforgets.symm.trans (hpasses.forgets ns)
  · intro e s later hlanding hgone hlater
    have hforgets : Moment.forgets ⟨k, e⟩ ns = true := by
      rw [Moment.forgets, hlanding, Option.any_some, hgone, Bool.not_false, Bool.or_true]
    have hrun : after route threshold (events ++ e :: later) = k.run (e :: later) :=
      run_append _ _ _
    have hmoments : (start route threshold).moments (events ++ e :: later) =
        past ++ ⟨k, e⟩ :: (k.step e).moments later := moments_append _ _ _
    have hall := isExpanded_after route threshold (events ++ e :: later) ns
    rwa [hrun, hmoments, recalled?_of_forgets hforgets past hlater] at hall

/-- One of two namespaces is gone for a while, and all were to be expanded before. -/
example :
    let snapshot (names : List String) : Snapshot :=
      ⟨.all, names.map fun ns => { identity := { namespaceName := ns } }, "", .epoch⟩
    let fetch (generation : Nat) (names : List String) : List Event :=
      [.refresh, .complete generation (.ok (snapshot names))]
    let d := (after .all Search.defaultThreshold (fetch 1 ["a", "b"] ++
      .setAllExpanded true :: (fetch 2 ["b"] ++ fetch 3 ["a", "b"]))).dashboard
    d.isExpanded "a" = false ∧ d.isExpanded "b" = true := by
  decide

end Scene

end WaybillBoard.Dashboard
