import WaybillBoard.Board.Footer
import WaybillBoard.Dashboard.Fetching
import WaybillBoard.Time.Period

/-!
An interactive session: a dashboard with a selected row, a search prompt and a message. Times are
counted in milliseconds from the beginning of the session.
-/

namespace WaybillBoard

open Board (StatusMessage)

structure Session where
  dashboard : Dashboard
  /-- Where snapshots come from. -/
  label : String
  noIcons : Bool := false
  /-- The time between automatic refreshes, if there are any. -/
  interval : Option Time.Period := none
  lastRefresh : Nat := 0
  /-- The ticket that no task has been started for. -/
  queued : Option Ticket := none
  /-- The place of the selected row among the visible ones. -/
  selected : Nat := 0
  /-- The first line of the list that is drawn. -/
  offset : Nat := 0
  searching : Bool := false
  /-- The rows that a page key passes over. -/
  pageSize : Nat := 0
  message : Option StatusMessage := none
  showsHelp : Bool := false

namespace Session

/-- A session that has asked for its route. -/
def start (route : Route) (threshold : Binary64) (label : String) (noIcons : Bool)
    (interval : Option Time.Period) : Session :=
  let (dashboard, ticket) := Dashboard.refresh { route, threshold }
  { dashboard, label, noIcons, interval, queued := some ticket }

def selectedWaybill? (s : Session) : Option Waybill := s.dashboard.visible[s.selected]?

def say (s : Session) (text : String) (isError : Bool) : Session :=
  { s with message := some ⟨text, isError⟩ }

def selectFirst (s : Session) : Session := { s with selected := 0, offset := 0 }

/-- Moves the selection back to the last row when it is past it. -/
def clampSelection (s : Session) : Session :=
  let count := s.dashboard.visible.length
  if count = 0 then s.selectFirst
  else if count ≤ s.selected then { s with selected := count - 1 }
  else s

def selectNext (s : Session) (step : Nat) : Session :=
  let count := s.dashboard.visible.length
  if count = 0 then s else { s with selected := min (s.selected + step) (count - 1) }

def selectPrevious (s : Session) (step : Nat) : Session := { s with selected := s.selected - step }

end Session

end WaybillBoard
