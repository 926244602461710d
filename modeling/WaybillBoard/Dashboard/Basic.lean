import WaybillBoard.Dashboard.Route
import WaybillBoard.Search.Index
import WaybillBoard.View.Panel

/-!
The dashboard: a route, the snapshot fetched for it, and what the user narrowed and expanded. The
places of the visible Waybills are kept up to date by every operation that they depend on.
-/

namespace WaybillBoard

/-- What a fetch brings. -/
abbrev FetchOutcome := Except FetchError Snapshot

/-- Leave to answer one fetch. -/
structure Ticket where
  generation : Nat
  scope : Scope
  deriving DecidableEq, Repr

/-- The box that a ticket delivers to. It takes one outcome. -/
inductive Mailbox
  | empty
  | delivered (outcome : FetchOutcome)
  /-- The ticket is gone. -/
  | abandoned

/-- The number of a task that works on a fetch. -/
abbrev TaskId := Nat

/-- The fetch that is waited for. -/
structure InFlight where
  generation : Nat
  mailbox : Mailbox := .empty
  /-- The task to abort when the fetch is given up. -/
  task : Option TaskId := none

/-- The namespaces that were expanded or collapsed, each at most once. -/
abbrev Expansion := List (String × Bool)

namespace Expansion

def get? (e : Expansion) (ns : String) : Option Bool := List.lookup ns e

def set (e : Expansion) (ns : String) (expanded : Bool) : Expansion :=
  (ns, expanded) :: List.filter (fun entry => entry.1 ≠ ns) e

end Expansion

structure Dashboard where
  route : Route
  /-- The largest score of a search hit. -/
  threshold : Binary64 := Search.defaultThreshold
  phase : Phase := .idle
  /-- How many fetches were asked for or given up. -/
  generation : Nat := 0
  inFlight : Option InFlight := none
  snapshot : Option Snapshot := none
  index : Option Search.Index := none
  query : String := ""
  filter : OutcomeFilter := .all
  expansion : Expansion := []
  /-- The places of the visible Waybills in the snapshot. -/
  visiblePlaces : List Nat := []
  /-- The tasks that were aborted, the latest first. -/
  aborted : List TaskId := []

namespace Dashboard

def mode (d : Dashboard) : DisplayMode := d.route.mode

/-- Is a namespace expanded? Until it is toggled, only in the view of a single namespace. -/
def isExpanded (d : Dashboard) (ns : String) : Bool :=
  (d.expansion.get? ns).getD (d.mode = .single)

/-- The Waybills that query and filter leave, in the order in which they are shown. -/
def visible (d : Dashboard) : List Waybill :=
  match d.snapshot with
  | none => []
  | some s => d.visiblePlaces.filterMap (fun place => s.waybills[place]?)

/-- The panels of the visible Waybills. -/
def rows (d : Dashboard) (now : Time.Instant) : List Panel :=
  match d.snapshot with
  | none => []
  | some s =>
    d.visible.map fun w => Panel.of w (d.isExpanded w.namespaceName) s.diffUrlFormat now

/-- The count of outcomes over the whole snapshot. -/
def summary (d : Dashboard) : Summary :=
  Summary.of (match d.snapshot with
    | none => []
    | some s => s.waybills)

/-- The places of a snapshot that a query finds and a filter admits. -/
def placesOf (s : Snapshot) (index : Search.Index) (query : String) (filter : OutcomeFilter) :
    List Nat :=
  ((index.search query).map Search.Hit.index).filter fun place =>
    (s.waybills[place]?).any filter.admits

/-- With the visible places of the present snapshot, query and filter. -/
def updateVisible (d : Dashboard) : Dashboard :=
  { d with
    visiblePlaces :=
      match d.snapshot, d.index with
      | some s, some index => placesOf s index d.query d.filter
      | _, _ => [] }

def setQuery (d : Dashboard) (query : String) : Dashboard := updateVisible { d with query }

def setFilter (d : Dashboard) (filter : OutcomeFilter) : Dashboard :=
  updateVisible { d with filter }

def cycleFilter (d : Dashboard) : Dashboard := d.setFilter d.filter.next

/-- Expands a namespace that is collapsed and collapses one that is expanded. -/
def toggle (d : Dashboard) (ns : String) : Dashboard :=
  { d with expansion := d.expansion.set ns (!d.isExpanded ns) }

/-- Expands or collapses every namespace of the snapshot. -/
def setAllExpanded (d : Dashboard) (expanded : Bool) : Dashboard :=
  match d.snapshot with
  | none => d
  | some s =>
    { d with
      expansion := s.waybills.foldl (fun e w => e.set w.namespaceName expanded) d.expansion }

end Dashboard

end WaybillBoard
