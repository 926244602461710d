import WaybillBoard.Screen.Style
import WaybillBoard.Text.Width

/-!
Styled text: lines of spans, and the glyphs that they are drawn with.
-/

namespace WaybillBoard.Screen

/-- The text with spaces up to a number of characters. -/
def padRight (length : Nat) (s : String) : String := s ++ "".pushn ' ' (length - s.length)

structure Span where
  style : Style
  text : List Char
  deriving DecidableEq, Repr

namespace Span

def plain (s : String) : Span := ⟨.plain, s.toList⟩

def styled (style : Style) (s : String) : Span := ⟨style, s.toList⟩

end Span

structure Line where
  spans : List Span
  style : Style := .plain
  deriving DecidableEq, Repr

namespace Line

def empty : Line := ⟨[], .plain⟩

def plain (s : String) : Line := ⟨[Span.plain s], .plain⟩

def ofSpans (spans : List Span) : Line := ⟨spans, .plain⟩

/-- The characters of the line. -/
def text (l : Line) : List Char := l.spans.flatMap Span.text

end Line

/-- A grapheme in its style. -/
structure Glyph where
  symbol : List Char
  style : Style
  deriving DecidableEq, Repr

namespace Glyph

def width (g : Glyph) : Nat := Text.graphemeWidth g.symbol

/-- May a line be broken at the glyph? Not at a space that holds its neighbors together. -/
def isBlank (g : Glyph) : Bool :=
  g.symbol = [Char.ofNat 0x200B] ||
    (g.symbol.all Text.isBlank && g.symbol ≠ [Char.ofNat 0xA0])

/-- The cells of a row of glyphs. -/
def totalWidth (gs : List Glyph) : Nat := gs.foldl (fun n g => n + g.width) 0

end Glyph

def isControl (c : Char) : Bool := c.toNat < 0x20 || (0x7F ≤ c.toNat && c.toNat < 0xA0)

/-- The glyphs of a span over a style. Control characters are not drawn. -/
def Span.glyphs (below : Style) (s : Span) : List Glyph :=
  ((Text.graphemes s.text).filter (fun g => !g.any isControl)).map
    fun g => ⟨g, below.overlaid s.style⟩

def Line.glyphs (l : Line) : List Glyph := l.spans.flatMap (Span.glyphs l.style)

end WaybillBoard.Screen
