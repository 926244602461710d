import WaybillBoard.Dashboard.Basic
import WaybillBoard.Json.Printer

/-!
A report as a JSON document over several lines.
-/

namespace WaybillBoard

def Summary.toJson (s : Summary) : Json :=
  .object (Json.member "total" (Json.ofNat s.total) ++
    Json.member "pending" (Json.ofNat s.pending) ++
    Json.member "failure" (Json.ofNat s.failure) ++
    Json.member "warning" (Json.ofNat s.warning) ++
    Json.member "success" (Json.ofNat s.success))

namespace Report

/-- What narrows the report, the counts and the visible Waybills. -/
def toJson (d : Dashboard) (now : Time.Instant) : Json :=
  .object (Json.member "scope" (Json.text d.route.scope.text) ++
    Json.member "query" (Json.text d.query) ++
    Json.member "filter" (Json.text d.filter.label) ++
    Json.member "summary" d.summary.toJson ++
    Json.member "waybills" (.array ((d.rows now).map Panel.toJson)))

def document (d : Dashboard) (now : Time.Instant) : String := (toJson d now).pretty ++ "\n"

end Report

end WaybillBoard
