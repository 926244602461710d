import WaybillBoard.Screen.Text

/-!
The cells of a screen. What is drawn outside of it is lost.
-/

namespace WaybillBoard

namespace Screen

structure Cell where
  symbol : List Char := [' ']
  style : Style := ⟨some .terminal, some .terminal, false, false⟩
  deriving DecidableEq, Repr

structure Area where
  x : Nat
  y : Nat
  width : Nat
  height : Nat
  deriving DecidableEq, Repr

namespace Area

def right (a : Area) : Nat := a.x + a.width

def bottom (a : Area) : Nat := a.y + a.height

def isEmpty (a : Area) : Bool := a.width = 0 || a.height = 0

/-- The part of an area that another one covers. -/
def within (a b : Area) : Area :=
  let x := max a.x b.x
  let y := max a.y b.y
  ⟨x, y, min a.right b.right - x, min a.bottom b.bottom - y⟩

end Area

end Screen

/-- Cells in rows, the upper row first. -/
structure Screen where
  width : Nat
  height : Nat
  cells : Array Screen.Cell

namespace Screen

def blank (width height : Nat) : Screen := ⟨width, height, Array.replicate (width * height) {}⟩

def area (s : Screen) : Area := ⟨0, 0, s.width, s.height⟩

/-- Changes one cell. -/
def update (s : Screen) (x y : Nat) (change : Cell → Cell) : Screen :=
  if x < s.width ∧ y < s.height then
    { s with cells := s.cells.modify (y * s.width + x) change }
  else s

/-- Changes the cells at the places of a row, from `x` on. -/
def updateRow (s : Screen) (x y width : Nat) (change : Cell → Cell) : Screen :=
  (List.range width).foldl (fun s i => s.update (x + i) y change) s

/-- Changes every cell of an area. -/
def updateArea (s : Screen) (a : Area) (change : Cell → Cell) : Screen :=
  (List.range a.height).foldl (fun s i => s.updateRow a.x (a.y + i) a.width change) s

def Cell.restyle (style : Style) (c : Cell) : Cell := { c with style := c.style.overlaid style }

/-- The cell with a glyph in it. -/
def Cell.write (g : Glyph) (c : Cell) : Cell := ⟨g.symbol, c.style.overlaid g.style⟩

def restyle (s : Screen) (a : Area) (style : Style) : Screen := s.updateArea a (Cell.restyle style)

/-- Empties an area. -/
def erase (s : Screen) (a : Area) : Screen := s.updateArea a (fun _ => {})

/-- Draws glyphs from a place on; those without width are left out. -/
def drawGlyphs (s : Screen) (x y : Nat) : List Glyph → Screen
  | [] => s
  | g :: gs =>
    if g.width = 0 then drawGlyphs s x y gs
    else drawGlyphs (s.update x y (Cell.write g)) (x + g.width) y gs

/-- Draws rows of glyphs, one under the other. -/
def drawRows (s : Screen) (x y : Nat) : List (List Glyph) → Screen
  | [] => s
  | row :: rows => drawRows (s.drawGlyphs x y row) x (y + 1) rows

/-- The cells of a row. -/
def row (s : Screen) (y : Nat) : List Cell :=
  (s.cells.extract (y * s.width) ((y + 1) * s.width)).toList

/-- The symbols of cells; those behind a wide symbol, `hidden` of them at first, do not show. -/
def symbols (hidden : Nat) : List Cell → List Char
  | [] => []
  | c :: cells =>
    let shown := if hidden = 0 then c.symbol else []
    shown ++ symbols (max hidden (Text.width c.symbol) - 1) cells

/-- The text of each row. -/
def rows (s : Screen) : List (List Char) :=
  (List.range s.height).map fun y => symbols 0 (s.row y)

/-- Runs of equal values with their lengths. -/
def runs {α : Type} [DecidableEq α] : List α → List (Nat × α)
  | [] => []
  | a :: as =>
    match runs as with
    | [] => [(1, a)]
    | (n, b) :: rest => if a = b then (n + 1, b) :: rest else (1, a) :: (n, b) :: rest

/-- The styles of each row, in runs. -/
def styleRuns (s : Screen) : List (List (Nat × Style)) :=
  (List.range s.height).map fun y => runs ((s.row y).map Cell.style)

end Screen

end WaybillBoard
