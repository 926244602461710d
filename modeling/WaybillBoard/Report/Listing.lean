import WaybillBoard.Dashboard.Basic

/-!
A report as plain text: a line of counts, a line for each Waybill, and its last run below it when it
is expanded.
-/

namespace WaybillBoard.Report

def countLine (d : Dashboard) : String :=
  let s := d.summary
  d.route.text ++ ": " ++ toString s.total ++ " Waybill(s), " ++ toString s.success ++
    " success, " ++ toString s.warning ++ " warning, " ++ toString s.failure ++ " failure, " ++
    toString s.pending ++ " pending"

/-- When the last run ended, or else began. -/
def lastRunText : Option RunDetail → String
  | none => "never run"
  | some d => ((d.finished.or d.started).map Timestamp.relative).getD "-"

def panelLine (p : Panel) : String :=
  "[" ++ p.outcome.name ++ "] " ++ p.namespaceName ++ "/" ++ p.name ++
    (if p.badges.isEmpty then "" else "  " ++ ", ".intercalate (p.badges.map Badge.label)) ++
    "  " ++ lastRunText p.detail

/-- The mark of an output line. -/
def lineMark : LineKind → String
  | .warning => "!"
  | .error => "x"
  | _ => " "

def commitText (d : RunDetail) : String :=
  match d.commitLink with
  | some link => d.commit ++ " (" ++ link ++ ")"
  | none => d.commit

def timeLine (label : String) : Option Timestamp → List String
  | none => []
  | some t => [label ++ t.absolute ++ " (" ++ t.relative ++ ")"]

def outputLine (line : LineKind × String) : String := "    " ++ lineMark line.1 ++ " " ++ line.2

def detailLines (d : RunDetail) : List String :=
  ["    type:     " ++ d.kind, "    commit:   " ++ commitText d] ++
  timeLine "    started:  " d.started ++
  timeLine "    finished: " d.finished ++
  (d.duration.map ("    duration: " ++ ·)).toList ++
  ["    command:  " ++ d.command] ++
  (d.errorMessage.map ("    error:    " ++ ·)).toList ++
  ["    output:"] ++
  (Output.classified d.output).map outputLine

def panelLines (p : Panel) : List String :=
  if !p.expanded then [panelLine p]
  else
    match p.detail with
    | none => [panelLine p, "    This Waybill has not been run yet."]
    | some d => panelLine p :: detailLines d

def lines (d : Dashboard) (now : Time.Instant) : List String :=
  let rows := d.rows now
  countLine d :: (if rows.isEmpty then ["No Waybills match."] else rows.flatMap panelLines)

def listing (d : Dashboard) (now : Time.Instant) : String :=
  String.join ((lines d now).map (· ++ "\n"))

end WaybillBoard.Report
