import WaybillBoard.Snapshot.Basic
import WaybillBoard.Source.FetchError

/-!
Routes: what a dashboard shows, and how far it has come with fetching it.
-/

namespace WaybillBoard

/-- Every namespace, or a single one. -/
inductive Route
  | all
  | only (namespaceName : String)
  deriving DecidableEq, Repr

/-- How rows are laid out. -/
inductive DisplayMode
  | list
  | single
  deriving DecidableEq, Repr

def DisplayMode.name : DisplayMode → String
  | .list => "list"
  | .single => "single"

namespace Route

def ofScope : Scope → Route
  | .all => .all
  | .only ns => .only ns

/-- The route of a namespace that may be missing or blank. -/
def ofNamespace? (given : Option String) : Route := ofScope (Scope.ofNamespace? given)

/-- What a fetch for the route asks for. -/
def scope : Route → Scope
  | .all => .all
  | .only ns => .only ns

def mode : Route → DisplayMode
  | .all => .list
  | .only _ => .single

def text : Route → String
  | .all => "all namespaces"
  | .only ns => ns

end Route

inductive Phase
  /-- Nothing was asked for. -/
  | idle
  | loading
  | ready
  | failed (error : FetchError)
  deriving DecidableEq, Repr

def Phase.isLoading : Phase → Bool
  | .loading => true
  | _ => false

end WaybillBoard
