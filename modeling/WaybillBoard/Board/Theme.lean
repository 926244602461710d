import WaybillBoard.Screen.Text
import WaybillBoard.View.Outcome

/-!
The colors of the board.
-/

namespace WaybillBoard.Board

open Screen (Color Style Span)

namespace Theme

def label : Style := .colored .cyan

/-- Text that is not the main thing. -/
def secondary : Style := .colored .gray

def route (isAll : Bool) : Style :=
  { foreground := some (if isAll then .green else .yellow), bold := true }

def narrowing : Style := .colored .magenta

def status : StatusColor → Style
  | .success => .colored .green
  | .failure => .colored .red
  | .neutral => .colored .gray

def outcome : Outcome → Style
  | .success => .colored .green
  | .warning => .colored .yellow
  | .failure => .colored .red
  | .pending => .colored .gray

def badge : Style := { foreground := some .black, background := some .cyan, bold := true }

def outputLine : LineKind → Style
  | .warning => .colored .yellow
  | .configured => .colored .green
  | .error => .colored .red
  | .dryRun => .colored .blue
  | .plain => .colored .white

def link : Style := { foreground := some .blue, underlined := true }

def selected : Style := { foreground := some .white, background := some .darkGray, bold := true }

def key : Style := { foreground := some .yellow, bold := true }

def prompt : Style := { foreground := some .yellow, bold := true }

def message (isError : Bool) : Style := .colored (if isError then .red else .green)

end Theme

/-- The sign of an outcome; its name where no icons are wanted. -/
def outcomeMark (noIcons : Bool) : Outcome → String
  | .success => if noIcons then "success" else "✓"
  | .warning => if noIcons then "warning" else "⚠"
  | .failure => if noIcons then "failure" else "✗"
  | .pending => if noIcons then "pending" else "○"

end WaybillBoard.Board
