import WaybillBoard.Board.Theme
import WaybillBoard.Dashboard.Basic
import WaybillBoard.Screen.Paragraph

/-!
The header: where the data comes from and how new it is, the route, the count of each outcome, and
what narrows the list.
-/

namespace WaybillBoard.Board

open Screen (Frame Line Paragraph Span)

/-- How the last fetch stands. -/
def fetchState (d : Dashboard) (now : Time.Instant) : String :=
  match d.phase with
  | .idle => "idle"
  | .loading => "refreshing..."
  | .ready =>
    match d.snapshot with
    | some s => "updated " ++ String.ofList (Format.relative s.fetchedAt now)
    | none => ""
  | .failed _ => "failed"

def sourceLine (d : Dashboard) (label : String) (now : Time.Instant) : Line :=
  .ofSpans [Span.styled Theme.label "Source: ", Span.plain label, Span.plain "  ",
    Span.styled Theme.label ("[" ++ fetchState d now ++ "]")]

def routeLine (r : Route) : Line :=
  .ofSpans [Span.styled Theme.label "View:   ", Span.styled (Theme.route (r = .all)) r.text]

def countSpans (noIcons : Bool) (outcome : Outcome) (count : Nat) : List Span :=
  [Span.plain "  ",
    Span.styled (Theme.outcome outcome) (outcomeMark noIcons outcome ++ ":" ++ toString count)]

/-- Query and filter, as far as they narrow the list. -/
def narrowings (d : Dashboard) : List String :=
  (if d.query = "" then [] else ["search='" ++ d.query ++ "'"]) ++
  (if d.filter = .all then [] else ["outcome=" ++ d.filter.label])

def narrowingSpans (d : Dashboard) : List Span :=
  let parts := narrowings d
  if parts.isEmpty then []
  else
    [Span.plain "  ",
      Span.styled Theme.narrowing ("[" ++ " ".intercalate parts ++ "] (" ++
        toString d.visible.length ++ "/" ++ toString d.summary.total ++ " shown)")]

def countLine (d : Dashboard) (noIcons : Bool) : Line :=
  let s := d.summary
  .ofSpans ([Span.styled Theme.label "Total:  ", Span.plain (toString s.total)] ++
    countSpans noIcons .success s.success ++ countSpans noIcons .warning s.warning ++
    countSpans noIcons .failure s.failure ++ countSpans noIcons .pending s.pending ++
    narrowingSpans d)

def header (d : Dashboard) (label : String) (now : Time.Instant) (noIcons : Bool) : Paragraph where
  lines := [sourceLine d label now, routeLine d.route, countLine d noIcons]
  frame := { title := " ka9s ".toList }

def headerHeight : Nat := 5

end WaybillBoard.Board
