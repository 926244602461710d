import WaybillBoard.Dashboard.Basic

/-!
Fetching for a dashboard. Every request raises the generation, and only an outcome of the present
generation is taken, once, while it is waited for. A ticket delivers into the mailbox of the fetch
in flight, which a later look at it empties.
-/

namespace WaybillBoard.Dashboard

/-- Without the fetch in flight; its task is aborted. -/
def giveUp (d : Dashboard) : Dashboard :=
  match d.inFlight with
  | none => d
  | some f => { d with inFlight := none, aborted := f.task.toList ++ d.aborted }

/-- Asks for the present route. What is shown stays until the outcome comes. -/
def refresh (d : Dashboard) : Dashboard × Ticket :=
  let d := d.giveUp
  let generation := d.generation + 1
  ({ d with generation, inFlight := some { generation }, phase := .loading },
    ⟨generation, d.route.scope⟩)

/-- Registers a task for a generation. When that is not in flight the task is aborted. -/
def track (d : Dashboard) (generation : Nat) (task : TaskId) : Dashboard :=
  match d.inFlight with
  | none => { d with aborted := task :: d.aborted }
  | some f =>
    if f.generation = generation then { d with inFlight := some { f with task := some task } }
    else { d with aborted := task :: d.aborted }

/-- Drops the snapshot and all that was made from it. -/
def clear (d : Dashboard) : Dashboard :=
  { d with snapshot := none, index := none, visiblePlaces := [] }

/-- Shows a snapshot. Namespaces that it does not hold are forgotten. -/
def display (d : Dashboard) (s : Snapshot) : Dashboard :=
  updateVisible
    { d with
      expansion := d.expansion.filter (fun entry => s.holds entry.1)
      index := some (Search.Index.build s.waybills d.threshold)
      snapshot := some s
      phase := .ready }

/-- Takes an outcome, if its generation is the present one and waited for: the dashboard after it,
and whether it was taken. -/
def complete (d : Dashboard) (generation : Nat) (outcome : FetchOutcome) : Dashboard × Bool :=
  if generation ≠ d.generation ∨ !d.phase.isLoading then (d, false)
  else
    let d := { d with inFlight := none }
    match outcome with
    | .ok s => (d.display s, true)
    | .error e => ({ d.clear with phase := .failed e }, true)

/-- Puts the outcome of a ticket into its mailbox, if that is still there. -/
def deliver (d : Dashboard) (generation : Nat) (outcome : FetchOutcome) : Dashboard × Bool :=
  match d.inFlight with
  | some ⟨g, .empty, task⟩ =>
    if g = generation then ({ d with inFlight := some ⟨g, .delivered outcome, task⟩ }, true)
    else (d, false)
  | _ => (d, false)

/-- A ticket is dropped: nothing can come any more. -/
def abandon (d : Dashboard) (generation : Nat) : Dashboard :=
  match d.inFlight with
  | some ⟨g, .empty, task⟩ =>
    if g = generation then { d with inFlight := some ⟨g, .abandoned, task⟩ } else d
  | _ => d

/-- Looks into the mailbox: the dashboard after it, and whether anything changed. -/
def poll (d : Dashboard) : Dashboard × Bool :=
  match d.inFlight with
  | none => (d, false)
  | some f =>
    match f.mailbox with
    | .empty => (d, false)
    | .delivered outcome => { d with inFlight := none }.complete f.generation outcome
    | .abandoned =>
      { d with inFlight := none }.complete f.generation
        (.error (.network "fetch ended without a result"))

/-- Goes to a route, unless it is there already and was asked for. Nothing of the old one stays. -/
def navigate (d : Dashboard) (route : Route) : Dashboard × Option Ticket :=
  if route = d.route ∧ d.phase ≠ .idle then (d, none)
  else
    let d := { d.clear with route, query := "", filter := .all, expansion := [] }
    let (d, ticket) := d.refresh
    (d, some ticket)

/-- Stops: whatever is in flight no longer matters. -/
def unmount (d : Dashboard) : Dashboard :=
  let d := d.giveUp
  { d.clear with generation := d.generation + 1, phase := .idle }

end WaybillBoard.Dashboard
