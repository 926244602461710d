import WaybillBoard.Board.Keys
import WaybillBoard.Board.Messages

/-!
The help, in the middle of the screen and over everything else.
-/

namespace WaybillBoard.Board

open Screen (Area Line Paragraph Span padRight)

def helpKeyWidth : Nat := helpKeys.foldl (fun n k => max n k.1.length) 0

def helpLines : List Line :=
  helpKeys.map (fun (key, description) =>
    Line.ofSpans [Span.styled Theme.key (padRight helpKeyWidth key), Span.plain "  ",
      Span.plain description]) ++
  [Line.empty, Line.plain "Press any key to close"]

/-- The area of the help inside another one. -/
def helpArea (a : Area) : Area :=
  let width := min (helpKeyWidth + 52) a.width
  let height := min (helpLines.length + 2) a.height
  ⟨a.x + (a.width - width) / 2, a.y + (a.height - height) / 2, width, height⟩

def drawHelp (s : Screen) (a : Area) : Screen :=
  let popup := helpArea a
  let help : Paragraph := { lines := helpLines, frame := titledFrame " Help " }
  help.draw (s.erase (popup.within s.area)) popup

end WaybillBoard.Board
