import WaybillBoard.Session.Basic

/-!
Fetches of a session. It queues tickets, which the caller takes and works on, and polls for what
they bring.
-/

namespace WaybillBoard.Session

/-- Hands out the queued ticket. -/
def take (s : Session) : Session × Option Ticket := ({ s with queued := none }, s.queued)

/-- Asks for the present route again. -/
def refresh (s : Session) (now : Nat) : Session :=
  let (dashboard, ticket) := s.dashboard.refresh
  { s with dashboard, queued := some ticket, lastRefresh := now }

/-- Goes to another route, with the first row selected. -/
def navigate (s : Session) (route : Route) (now : Nat) : Session :=
  match s.dashboard.navigate route with
  | (_, none) => s
  | (dashboard, some ticket) =>
    selectFirst
      { s with dashboard, queued := some ticket, lastRefresh := now, searching := false }

/-- Takes what a fetch brought: the session after it, and whether anything changed. -/
def poll (s : Session) : Session × Bool :=
  let (dashboard, changed) := s.dashboard.poll
  let s := { s with dashboard }
  if !changed then (s, false)
  else
    let s := match dashboard.phase with
      | .failed e => s.say ("Refresh failed: " ++ e.message) true
      | _ => s
    (s.clampSelection, true)

/-- Is it time for an automatic refresh? Not while one is waited for. -/
def isDue (s : Session) (now : Nat) : Bool :=
  match s.interval with
  | none => false
  | some interval =>
    !s.dashboard.phase.isLoading && s.queued.isNone && interval.millis ≤ now - s.lastRefresh

def tick (s : Session) (now : Nat) : Session := if s.isDue now then s.refresh now else s

/-- Stops all fetches. -/
def unmount (s : Session) : Session :=
  { s with queued := none, dashboard := s.dashboard.unmount }

end WaybillBoard.Session
