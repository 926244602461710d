import WaybillBoard.Screen.Basic

/-!
Frames: a border around an area, with a title in its upper edge.
-/

namespace WaybillBoard.Screen

structure Frame where
  title : List Char := []
  style : Style := .plain

namespace Frame

/-- The area inside a frame. -/
def inner (a : Area) : Area :=
  ⟨min (a.x + 1) a.right, min (a.y + 1) a.bottom, a.width - 2, a.height - 2⟩

def Cell.append (g : Glyph) (c : Cell) : Cell := Cell.write ⟨c.symbol ++ g.symbol, g.style⟩ c

/-- Draws the glyphs of a title as far as they fit. One without width joins the cell before it, and
the cells behind a wide one are emptied. -/
def drawTitle (a : Area) (s : Screen) (x : Nat) (isFirst : Bool) : List Glyph → Screen
  | [] => s
  | g :: gs =>
    if a.right < x + g.width then s
    else
      let s :=
        if isFirst then s.update x a.y (Cell.write g)
        else if x = a.x then s.update x a.y (Cell.append g)
        else if g.width = 0 then s.update (x - 1) a.y (Cell.append g)
        else s.update x a.y (Cell.write g)
      drawTitle a (s.updateRow (x + 1) a.y (g.width - 1) (fun _ => {})) (x + g.width) false gs

def drawBorder (f : Frame) (s : Screen) (a : Area) : Screen :=
  let write (symbol : Char) : Cell → Cell := Cell.write ⟨[symbol], f.style⟩
  let right := a.right - 1
  let bottom := a.bottom - 1
  let s := s.updateArea ⟨a.x, a.y, 1, a.height⟩ (write '│')
  let s := s.updateArea ⟨a.x, a.y, a.width, 1⟩ (write '─')
  let s := s.updateArea ⟨right, a.y, 1, a.height⟩ (write '│')
  let s := s.updateArea ⟨a.x, bottom, a.width, 1⟩ (write '─')
  let s := s.update right bottom (write '┘')
  let s := s.update right a.y (write '┐')
  let s := s.update a.x bottom (write '└')
  s.update a.x a.y (write '┌')

/-- Draws border and title. In the smallest areas the upper left corner comes last. -/
def draw (f : Frame) (s : Screen) (a : Area) : Screen :=
  if a.isEmpty then s
  else
    let s := f.drawBorder s a
    let top : Area := ⟨a.x + 1, a.y, a.width - 2, 1⟩
    let title := Span.glyphs .plain ⟨.plain, f.title⟩
    if top.isEmpty || Glyph.totalWidth title = 0 then s else drawTitle top s top.x true title

end Frame

end WaybillBoard.Screen
