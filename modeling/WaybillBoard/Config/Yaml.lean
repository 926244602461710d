import WaybillBoard.Config.Basic
import WaybillBoard.Text.Octets
import WaybillBoard.Yaml.Document
import WaybillBoard.Yaml.Style

/-!
Configurations as YAML documents. What a document leaves out has its default, and what it names
besides does not count.
-/

namespace WaybillBoard.Config

open Yaml (Node ScalarStyle)

/-- The text of a scalar of any style. -/
def text? (root node : Node) : Option String :=
  match root.resolve node with
  | some (.scalar _ _ _ text) => some (String.ofList text)
  | _ => none

/-- The text of a scalar that may stand for something else than text. -/
def plainText? (tag : String) (root node : Node) : Option (List Char) :=
  match root.resolve node with
  | some (.scalar _ given style text) =>
    if style = .plain || (style = .literal && given = some (Text.Octets.ofString tag)) then
      some text
    else none
  | _ => none

def bool? (root node : Node) : Option Bool :=
  (plainText? "tag:yaml.org,2002:bool" root node).bind Yaml.Scalar.bool?

def number? (root node : Node) : Option Binary64 :=
  (plainText? "tag:yaml.org,2002:float" root node).bind Yaml.Scalar.number?

abbrev Fields := List (String × Node)

/-- The named fields of a mapping, each at most once. Where nothing stands there are none. -/
def fields? (names : List String) (root node : Node) : Option Fields :=
  match root.resolve node with
  | some (.mapping _ entries) => do
    let all ← entries.mapM fun (key, value) => do return (← text? root key, value)
    let known := all.filter (names.contains ·.1)
    if (known.map (·.1)).Nodup then some known else none
  | some (.scalar _ _ .plain []) => some []
  | _ => none

/-- A field, or its default where it is left out. -/
def field? {α : Type} (fields : Fields) (name : String) (read : Node → Option α) (default : α) :
    Option α :=
  match fields.lookup name with
  | some node => read node
  | none => some default

/-- The fields at the top of a document. -/
def topFields? (root : Node) : Option Fields :=
  fields? ["apiUrl", "requestTimeout", "refreshInterval", "defaultNamespace", "search", "ui"] root
    root

def ofNode? (root : Node) : Option Config := do
  let default : Config := {}
  let top ← topFields? root
  let search ← field? top "search" (fields? ["threshold"] root) []
  let ui ← field? top "ui" (fields? ["enableMouse", "noIcons"] root) []
  return {
    apiUrl := ← field? top "apiUrl" (text? root) default.apiUrl
    requestTimeout := ← field? top "requestTimeout" (text? root) default.requestTimeout
    refreshInterval := ← field? top "refreshInterval" (text? root) default.refreshInterval
    defaultNamespace := ← field? top "defaultNamespace" (text? root) default.defaultNamespace
    threshold := ← field? search "threshold" (number? root) default.threshold
    enableMouse := ← field? ui "enableMouse" (bool? root) default.enableMouse
    noIcons := ← field? ui "noIcons" (bool? root) default.noIcons }

/-- The configuration in a text, which may hold no document. -/
def ofYaml? (cs : List Char) : Option Config := do
  match ← Node.read? cs with
  | some root => ofNode? root
  | none => return {}

/-- Numbers have a point or an exponent here. -/
def thresholdText (x : Binary64) : List Char := x.textWith .document ".nan".toList ".inf".toList

def toYaml (c : Config) : List Char :=
  let texts := [c.apiUrl, c.requestTimeout, c.refreshInterval, c.defaultNamespace].map String.toList
  "apiUrl: ".toList ++ Yaml.Style.line c.apiUrl.toList
    ++ "requestTimeout: ".toList ++ Yaml.Style.line c.requestTimeout.toList
    ++ "refreshInterval: ".toList ++ Yaml.Style.line c.refreshInterval.toList
    ++ "defaultNamespace: ".toList ++ Yaml.Style.line c.defaultNamespace.toList
    ++ "search:\n  threshold: ".toList ++ thresholdText c.threshold
    ++ "\nui:\n  enableMouse: ".toList ++ (boolText c.enableMouse).toList
    ++ "\n  noIcons: ".toList ++ (boolText c.noIcons).toList ++ ['\n']
    ++ Yaml.Style.endMark texts

end WaybillBoard.Config
