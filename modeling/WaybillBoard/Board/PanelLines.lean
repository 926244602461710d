import WaybillBoard.Board.Theme
import WaybillBoard.View.Panel

/-!
The lines of a panel: one that sums it up, and the last run below it when it is expanded.
-/

namespace WaybillBoard.Board

open Screen (Line Span Style padRight)

def indent : String := "    "

def caret (expanded noIcons : Bool) : String :=
  match expanded, noIcons with
  | true, false => "▾"
  | false, false => "▸"
  | true, true => "-"
  | false, true => "+"

/-- When the last run ended, or else began. -/
def lastRunText : Option RunDetail → String
  | none => "never run"
  | some d => ((d.finished.or d.started).map Timestamp.relative).getD ""

def badgeSpans (b : Badge) : List Span :=
  [Span.plain " ", Span.styled Theme.badge (" " ++ b.label ++ " ")]

def summaryLine (p : Panel) (selected noIcons : Bool) : Line where
  spans :=
    [Span.plain (caret p.expanded noIcons ++ " "),
      Span.styled (Theme.status p.color)
        (if noIcons then "[" ++ outcomeMark true p.outcome ++ "]" else "●"),
      Span.plain " ",
      Span.styled (Theme.status p.color) (p.namespaceName ++ "/" ++ p.name)] ++
    p.badges.flatMap badgeSpans ++
    (let text := lastRunText p.detail
      if text = "" then [] else [Span.styled Theme.secondary ("  " ++ text)])
  style := if selected then Theme.selected else .plain

def fieldSpans (label : String) (style : Style) (value : String) : List Span :=
  [Span.styled Theme.label (indent ++ padRight 10 label), Span.styled style value]

def field (label value : String) : Line := .ofSpans (fieldSpans label .plain value)

def linkSpans : Option String → List Span
  | none => []
  | some link => [Span.plain "  ", Span.styled Theme.link link]

def timeField (label : String) : Option Timestamp → List Line
  | none => []
  | some t => [field label (t.absolute ++ " (" ++ t.relative ++ ")")]

def outputLine (line : LineKind × String) : Line :=
  .ofSpans [Span.plain (indent ++ "  "), Span.styled (Theme.outputLine line.1) line.2]

def detailLines (d : RunDetail) : List Line :=
  [field "Type:" d.kind,
    .ofSpans (fieldSpans "Commit:" .plain d.commit ++ linkSpans d.commitLink)] ++
  timeField "Started:" d.started ++
  timeField "Finished:" d.finished ++
  (d.duration.map (field "Duration:")).toList ++
  [field "Command:" d.command] ++
  (d.errorMessage.map fun message =>
    Line.ofSpans (fieldSpans "Error:" (Theme.message true) message)).toList ++
  [.ofSpans [Span.styled Theme.label (indent ++ "Output:")]] ++
  (Output.classified d.output).map outputLine

/-- The lines of a panel; an expanded one ends with an empty line. -/
def panelLines (p : Panel) (selected noIcons : Bool) : List Line :=
  let summary := summaryLine p selected noIcons
  if !p.expanded then [summary]
  else
    let below := match p.detail with
      | none => [Line.ofSpans
          [Span.styled Theme.secondary (indent ++ "This Waybill has not been run yet.")]]
      | some d => detailLines d
    summary :: (below ++ [Line.empty])

end WaybillBoard.Board
