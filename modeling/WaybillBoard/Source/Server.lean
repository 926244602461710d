import WaybillBoard.Snapshot.Basic
import WaybillBoard.Time.Period
import WaybillBoard.Url.Reader

/-!
Status servers: the URL that they stand at, and where they answer for a scope.
-/

namespace WaybillBoard

structure Server where
  base : Url
  timeout : Time.Period
  deriving DecidableEq, Repr

inductive ServerError
  | invalidUrl (text : String) (cause : Url.UrlError)
  /-- Nothing can be added to the path of the URL. -/
  | noBase (url : Url)
  | zeroTimeout
  deriving DecidableEq, Repr

/-- The messages of an error, the outermost first. -/
def ServerError.messages : ServerError → List String
  | .invalidUrl text cause => ["Invalid API URL: " ++ text, cause.message]
  | .noBase url => ["API URL cannot be used as a base: " ++ String.ofList url.write]
  | .zeroTimeout => ["Request timeout must be greater than zero"]

namespace Server

def ofText (text : String) (timeout : Time.Period) : Except ServerError Server :=
  match Url.read text.toList with
  | .error cause => .error (.invalidUrl text cause)
  | .ok base =>
    if !base.isBase then .error (.noBase base)
    else if timeout.isZero then .error .zeroTimeout
    else .ok ⟨base, timeout⟩

def statusPath : List (List Char) := ["api".toList, "v1".toList, "status".toList]

/-- Where the status of a scope is found. A namespace is one more segment. -/
def endpoint (s : Server) (scope : Scope) : Url :=
  s.base.addSegments (statusPath ++ match scope with
    | .all => []
    | .only ns => [ns.toList])

end Server

/-- Where snapshots come from. -/
inductive Source
  | server (server : Server)
  | file (path : String)
  | memory (list : StatusList)

namespace Source

def kind : Source → String
  | .server _ => "http"
  | .file _ => "file"
  | .memory _ => "memory"

/-- The name of the source as it is shown. -/
def label : Source → String
  | .server s => String.ofList s.base.write
  | .file path => path
  | .memory _ => "in-memory"

end Source

end WaybillBoard
