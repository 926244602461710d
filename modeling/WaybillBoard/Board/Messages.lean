import WaybillBoard.Board.Theme
import WaybillBoard.Screen.Paragraph
import WaybillBoard.Source.FetchError

/-!
What the list area shows instead of a list: that it loads, is empty, or failed to load.
-/

namespace WaybillBoard.Board

open Screen (Area Frame Line Paragraph Span)

/-- A frame with a title in the color of labels. -/
def titledFrame (title : String) : Frame := ⟨title.toList, Theme.label⟩

/-- Two messages with an empty line between them. -/
def twoMessages (title first second : String) : Paragraph where
  lines := [Line.plain first, Line.empty, Line.plain second]
  frame := titledFrame title
  style := Theme.secondary

def loadingMessage (title text : String) : Paragraph := twoMessages title text "Please wait..."

def emptyMessage (title text hint : String) : Paragraph := twoMessages title text hint

/-- A failed fetch, and how to try again. -/
def failureMessage (e : FetchError) : Paragraph where
  lines :=
    [⟨[Span.styled (Theme.message true) "Failed to load Waybill status"], .plain⟩,
      Line.empty,
      Line.ofSpans [Span.styled Theme.label "Error: ", Span.plain e.message]] ++
    (match e.status with
      | none => []
      | some status =>
        [Line.ofSpans [Span.styled Theme.label "HTTP status: ", Span.plain (toString status)]]) ++
    [Line.empty,
      Line.ofSpans [Span.plain "Press ", Span.styled Theme.key "r", Span.plain " to retry"]]
  frame := ⟨" Error ".toList, Theme.message true⟩
  wraps := true

end WaybillBoard.Board
