import WaybillBoard.Search.Index
import WaybillBoard.Binary64.Layout

/-!
The configuration and its settings, each under its own name.
-/

namespace WaybillBoard

structure Config where
  apiUrl : String := "http://localhost:8080"
  requestTimeout : String := "10s"
  /-- Zero for no refreshes. -/
  refreshInterval : String := "0s"
  /-- Empty for all namespaces. -/
  defaultNamespace : String := ""
  threshold : Binary64 := Search.defaultThreshold
  enableMouse : Bool := false
  noIcons : Bool := false
  deriving DecidableEq

inductive Setting
  | apiUrl
  | requestTimeout
  | refreshInterval
  | defaultNamespace
  | threshold
  | enableMouse
  | noIcons
  deriving DecidableEq

namespace Setting

def all : List Setting :=
  [.apiUrl, .requestTimeout, .refreshInterval, .defaultNamespace, .threshold, .enableMouse,
    .noIcons]

def name : Setting → String
  | .apiUrl => "apiUrl"
  | .requestTimeout => "requestTimeout"
  | .refreshInterval => "refreshInterval"
  | .defaultNamespace => "defaultNamespace"
  | .threshold => "search.threshold"
  | .enableMouse => "ui.enableMouse"
  | .noIcons => "ui.noIcons"

def named? (name : String) : Option Setting := all.find? (·.name = name)

theorem named?_name (s : Setting) : named? s.name = some s := by cases s <;> decide

end Setting

def boolText (b : Bool) : String := if b then "true" else "false"

namespace Config

/-- The text of a setting. -/
def get (c : Config) : Setting → String
  | .apiUrl => c.apiUrl
  | .requestTimeout => c.requestTimeout
  | .refreshInterval => c.refreshInterval
  | .defaultNamespace => c.defaultNamespace
  | .threshold => String.ofList c.threshold.text
  | .enableMouse => boolText c.enableMouse
  | .noIcons => boolText c.noIcons

end Config

end WaybillBoard
