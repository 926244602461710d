import WaybillBoard.Text.Blank

/-!
The output of a run, line by line, and what each line reports.
-/

namespace WaybillBoard

inductive LineKind
  | warning
  | configured
  | error
  | dryRun
  | plain
  deriving DecidableEq, Repr

def LineKind.name : LineKind → String
  | .warning => "warning"
  | .configured => "configured"
  | .error => "error"
  | .dryRun => "dryRun"
  | .plain => "plain"

namespace Output

open Text (trim containsPart splitOn)

def lines (output : String) : List (List Char) := splitOn '\n' output.toList

/-- Does a line without blanks around it report a warning? -/
def isWarning (line : List Char) : Bool := "Warning:".toList.isPrefixOf line

/-- What a line reports. A warning comes before all else. -/
def classify (line : List Char) : LineKind :=
  let line := trim line
  if isWarning line then .warning
  else if "configured".toList.isSuffixOf line then .configured
  else if containsPart "unable to recognize".toList line || "error:".toList.isPrefixOf line then
    .error
  else if containsPart "dry run".toList line then .dryRun
  else .plain

/-- Is there a warning on some line? -/
def hasWarnings (output : String) : Bool := (lines output).any (fun line => isWarning (trim line))

/-- The lines with what they report. -/
def classified (output : String) : List (LineKind × String) :=
  (lines output).map fun line => (classify line, String.ofList line)

end Output

end WaybillBoard
