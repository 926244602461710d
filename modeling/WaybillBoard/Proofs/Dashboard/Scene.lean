import WaybillBoard.Proofs.Dashboard.Operations

/-!
Runs of a dashboard. A scene is a dashboard with the tickets that are out and a log of what was
issued, taken and given up; an event is an operation on the dashboard, or the sending or dropping
of a ticket.
-/

namespace WaybillBoard.Dashboard

/-- What can happen around a dashboard, in any order. -/
inductive Event
  | refresh
  | navigate (route : Route)
  | unmount
  | complete (generation : Nat) (outcome : FetchOutcome)
  | poll
  | setQuery (query : String)
  | setFilter (filter : OutcomeFilter)
  | cycleFilter
  | toggle (ns : String)
  | setAllExpanded (expanded : Bool)
  | track (generation : Nat) (task : TaskId)
  | send (ticket : Ticket) (outcome : FetchOutcome)
  | drop (ticket : Ticket)

/-- What the log of a run tells. -/
inductive Entry
  /-- A ticket was issued, and the dashboard showed a route then. -/
  | issued (ticket : Ticket) (route : Route)
  /-- An outcome was taken for a generation. -/
  | applied (generation : Nat) (outcome : FetchOutcome)
  | unmounted

structure Scene where
  dashboard : Dashboard
  /-- The tickets that were issued and neither sent nor dropped, the latest first. -/
  held : List Ticket := []
  /-- The latest entry first. -/
  log : List Entry := []

namespace Scene

/-- A new dashboard. -/
def start (route : Route) (threshold : Binary64) : Scene := { dashboard := { route, threshold } }

/-- After a request: the ticket is out. -/
def issue (k : Scene) (answer : Dashboard × Ticket) : Scene :=
  ⟨answer.1, answer.2 :: k.held, .issued answer.2 answer.1.route :: k.log⟩

/-- After an outcome was offered: it is logged when it was taken. -/
def offer (k : Scene) (generation : Nat) (outcome : FetchOutcome) (answer : Dashboard × Bool) :
    Scene :=
  { k with
    dashboard := answer.1
    log := if answer.2 then .applied generation outcome :: k.log else k.log }

/-- The scene after an event. Nobody can use a ticket that is not out. -/
def step (k : Scene) : Event → Scene
  | .refresh => k.issue k.dashboard.refresh
  | .navigate route =>
    match k.dashboard.navigate route with
    | (d, none) => { k with dashboard := d }
    | (d, some ticket) => k.issue (d, ticket)
  | .unmount => { k with dashboard := k.dashboard.unmount, log := .unmounted :: k.log }
  | .complete generation outcome =>
    k.offer generation outcome (k.dashboard.complete generation outcome)
  | .poll =>
    match k.dashboard.arrived? with
    | none => { k with dashboard := k.dashboard.poll.1 }
    | some (generation, outcome) => k.offer generation outcome k.dashboard.poll
  | .setQuery query => { k with dashboard := k.dashboard.setQuery query }
  | .setFilter filter => { k with dashboard := k.dashboard.setFilter filter }
  | .cycleFilter => { k with dashboard := k.dashboard.cycleFilter }
  | .toggle ns => { k with dashboard := k.dashboard.toggle ns }
  | .setAllExpanded expanded => { k with dashboard := k.dashboard.setAllExpanded expanded }
  | .track generation task => { k with dashboard := k.dashboard.track generation task }
  | .send ticket outcome =>
    if ticket ∈ k.held then
      { k with
        dashboard := (k.dashboard.deliver ticket.generation outcome).1
        held := k.held.erase ticket }
    else k
  | .drop ticket =>
    if ticket ∈ k.held then
      { k with
        dashboard := k.dashboard.abandon ticket.generation
        held := k.held.erase ticket }
    else k

def run (k : Scene) (events : List Event) : Scene := events.foldl step k

theorem run_cons (k : Scene) (e : Event) (events : List Event) :
    k.run (e :: events) = (k.step e).run events := rfl

theorem run_singleton (k : Scene) (e : Event) : k.run [e] = k.step e := rfl

theorem run_append (k : Scene) (events later : List Event) :
    k.run (events ++ later) = (k.run events).run later := List.foldl_append

/-- The scene that events make of a new dashboard. -/
def after (route : Route) (threshold : Binary64) (events : List Event) : Scene :=
  (start route threshold).run events

end Scene

end WaybillBoard.Dashboard
