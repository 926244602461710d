/-!
Why a fetch failed.
-/

namespace WaybillBoard

inductive FetchError
  | network (message : String)
  | http (status : Nat) (message : String)
  | malformed (message : String)
  | notFound (namespaceName : String)
  deriving DecidableEq, Repr

namespace FetchError

def message : FetchError → String
  | .network message => "network error: " ++ message
  | .http status message => "HTTP " ++ toString status ++ ": " ++ message
  | .malformed message => "failed to parse status response: " ++ message
  | .notFound ns => "no Waybill found in namespace '" ++ ns ++ "'"

/-- The HTTP status that goes with the failure. -/
def status : FetchError → Option Nat
  | .http status _ => some status
  | .notFound _ => some 404
  | _ => none

def kind : FetchError → String
  | .network _ => "network"
  | .http _ _ => "http"
  | .malformed _ => "parse"
  | .notFound _ => "not found"

end FetchError

end WaybillBoard
