import WaybillBoard.Screen.Frame
import WaybillBoard.Screen.Wrap

/-!
Paragraphs: lines in a frame. Lines that are too long are cut off, or broken between words.
-/

namespace WaybillBoard.Screen

structure Paragraph where
  lines : List Line
  frame : Frame := {}
  style : Style := .plain
  wraps : Bool := false
  /-- The first line that is drawn. -/
  scroll : Nat := 0

namespace Paragraph

/-- The rows that are drawn in an area of a width and height. -/
def shownRows (p : Paragraph) (width height : Nat) : List (List Glyph) :=
  if width = 0 ∨ height = 0 then []
  else if p.wraps then
    ((p.lines.flatMap (fun l => wrap width l.glyphs)).drop p.scroll).take height
  else
    ((p.lines.drop p.scroll).take height).map (fun l => cut width l.glyphs)

/-- Draws the paragraph, its frame along the edge of the area. -/
def draw (p : Paragraph) (s : Screen) (a : Area) : Screen :=
  let a := a.within s.area
  let s := s.restyle a p.style
  let s := p.frame.draw s a
  let inside := Frame.inner a
  s.drawRows inside.x inside.y (p.shownRows inside.width inside.height)

end Paragraph

end WaybillBoard.Screen
