import WaybillBoard.Dashboard.Fetching

/-!
A report: one fetch, narrowed and expanded as asked for.
-/

namespace WaybillBoard

structure ReportRequest where
  route : Route := .all
  query : Option String := none
  outcome : Option Outcome := none
  /-- Show the runs of all Waybills, not only in the view of a namespace. -/
  expand : Bool := false
  threshold : Binary64 := Search.defaultThreshold

/-- The dashboard after the fetch for a request has ended. -/
def Dashboard.fetched (fetch : Scope → FetchOutcome) (r : ReportRequest) : Dashboard :=
  let (d, ticket) := Dashboard.refresh { route := r.route, threshold := r.threshold }
  let d := (d.deliver ticket.generation (fetch ticket.scope)).1.poll.1
  let d := match r.query with
    | none => d
    | some query => d.setQuery query
  let d := match r.outcome with
    | none => d
    | some outcome => d.setFilter (.only outcome)
  if r.expand then d.setAllExpanded true else d

end WaybillBoard
