import WaybillBoard.Snapshot.Basic
import WaybillBoard.View.Format
import WaybillBoard.View.Outcome

/-!
Panels: what is shown of one Waybill, at a given time.
-/

namespace WaybillBoard

/-- A remark on how a Waybill is applied. -/
inductive Badge
  | dryRun
  | prune
  | autoApply
  | runInterval (seconds : String)
  deriving DecidableEq, Repr

namespace Badge

def label : Badge → String
  | .dryRun => "DRY RUN"
  | .prune => "PRUNE"
  | .autoApply => "AUTO APPLY"
  | .runInterval seconds => "INTERVAL " ++ seconds ++ "s"

def ofSpec (s : Spec) : List Badge :=
  (if s.dryRun then [dryRun] else []) ++
  (if s.prune = some true then [prune] else []) ++
  (if s.autoApply = some true then [autoApply] else []) ++
  (match s.runInterval with
    | none => []
    | some seconds => if seconds = "" then [] else [runInterval seconds])

def toJson : Badge → Json
  | .dryRun => Json.text "dryRun"
  | .prune => Json.text "prune"
  | .autoApply => Json.text "autoApply"
  | .runInterval seconds => .object (Json.member "runInterval" (Json.text seconds))

end Badge

/-- An instant, and how far it is from now. -/
structure Timestamp where
  absolute : String
  relative : String
  deriving DecidableEq, Repr

namespace Timestamp

def of (t now : Time.Instant) : Timestamp :=
  ⟨String.ofList (Format.absolute t), String.ofList (Format.relative t now)⟩

def toJson (t : Timestamp) : Json :=
  .object (Json.member "absolute" (Json.text t.absolute) ++
    Json.member "relative" (Json.text t.relative))

end Timestamp

/-- What is shown of a run. -/
structure RunDetail where
  kind : String
  commit : String
  commitLink : Option String
  started : Option Timestamp
  finished : Option Timestamp
  duration : Option String
  command : String
  output : String
  /-- The message of a failure; a success has none. -/
  errorMessage : Option String
  hasWarnings : Bool
  deriving DecidableEq, Repr

namespace RunDetail

def duration? (r : Run) : Option String := do
  let started ← r.started
  let finished ← r.finished
  return String.ofList (Format.latency started finished)

def of (r : Run) (diffUrlFormat : String) (now : Time.Instant) : RunDetail where
  kind := r.kind
  commit := r.commit
  commitLink := Format.commitLink diffUrlFormat r.commit
  started := r.started.map (Timestamp.of · now)
  finished := r.finished.map (Timestamp.of · now)
  duration := duration? r
  command := r.command
  output := r.output
  errorMessage := if r.success then none else some (r.errorMessage.getD "")
  hasWarnings := Output.hasWarnings r.output

def toJson (d : RunDetail) : Json :=
  .object (Json.member "runType" (Json.text d.kind) ++
    Json.member "commit" (Json.text d.commit) ++
    Json.member "commitLink" (Json.orNull Json.text d.commitLink) ++
    Json.member "started" (Json.orNull Timestamp.toJson d.started) ++
    Json.member "finished" (Json.orNull Timestamp.toJson d.finished) ++
    Json.member "duration" (Json.orNull Json.text d.duration) ++
    Json.member "command" (Json.text d.command) ++
    Json.member "output" (Json.text d.output) ++
    Json.member "errorMessage" (Json.orNull Json.text d.errorMessage) ++
    Json.member "hasWarnings" (.bool d.hasWarnings))

end RunDetail

structure Panel where
  namespaceName : String
  name : String
  color : StatusColor
  outcome : Outcome
  badges : List Badge
  expanded : Bool
  detail : Option RunDetail
  deriving DecidableEq, Repr

namespace Panel

def of (w : Waybill) (expanded : Bool) (diffUrlFormat : String) (now : Time.Instant) : Panel where
  namespaceName := w.namespaceName
  name := w.name
  color := StatusColor.of w
  outcome := Outcome.of w
  badges := Badge.ofSpec w.spec
  expanded := expanded
  detail := w.lastRun.map (RunDetail.of · diffUrlFormat now)

def toJson (p : Panel) : Json :=
  .object (Json.member "namespace" (Json.text p.namespaceName) ++
    Json.member "name" (Json.text p.name) ++
    Json.member "statusColor" (Json.text p.color.name) ++
    Json.member "outcome" (Json.text p.outcome.name) ++
    Json.member "badges" (.array (p.badges.map Badge.toJson)) ++
    Json.member "expanded" (.bool p.expanded) ++
    Json.member "detail" (Json.orNull RunDetail.toJson p.detail))

end Panel

end WaybillBoard
