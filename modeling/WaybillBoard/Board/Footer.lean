import WaybillBoard.Board.Keys
import WaybillBoard.Board.Theme
import WaybillBoard.Screen.Paragraph

/-!
The footer: the search prompt, else a message, else the keys.
-/

namespace WaybillBoard.Board

open Screen (Line Paragraph Span)

/-- A message, and whether it tells of an error. -/
structure StatusMessage where
  text : String
  isError : Bool
  deriving DecidableEq, Repr

def promptSpans (query : String) : List Span :=
  [Span.styled Theme.prompt "/", Span.plain query, Span.plain "_",
    Span.plain "  [Enter: keep, Esc: clear]"]

def keySpans (mode : DisplayMode) : List Span :=
  let groups := (footerKeys mode).map fun (key, label) =>
    [Span.styled Theme.key ("<" ++ key ++ ">"), Span.plain (" " ++ label)]
  [Span.plain " "].intercalate groups

def footer (searching : Bool) (query : String) (message : Option StatusMessage)
    (mode : DisplayMode) : Paragraph where
  lines :=
    [Line.ofSpans <|
      if searching then promptSpans query
      else match message with
        | some m => [Span.styled (Theme.message m.isError) m.text]
        | none => keySpans mode]

def footerHeight : Nat := 3

end WaybillBoard.Board
