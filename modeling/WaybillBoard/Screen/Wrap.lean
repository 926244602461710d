import WaybillBoard.Screen.Text

/-!
Fitting a line of glyphs into a width: cutting off what is too much, or breaking it between words.
A glyph that is wider than the whole width is left out.
-/

namespace WaybillBoard.Screen

/-- The glyphs that fit, up to the first that does not. -/
def cutTo (room limit : Nat) : List Glyph → List Glyph
  | [] => []
  | g :: gs =>
    if limit < g.width then cutTo room limit gs
    else if room < g.width then []
    else g :: cutTo (room - g.width) limit gs

/-- The start of a line that fits into `limit` cells. -/
def cut (limit : Nat) (gs : List Glyph) : List Glyph := cutTo limit limit gs

/-- A line that is being broken. -/
structure Wrapping where
  /-- The lines so far. -/
  lines : List (List Glyph) := []
  /-- What the next line holds for certain. -/
  line : List Glyph := []
  /-- Blanks after it. -/
  blanks : List Glyph := []
  /-- The word after the blanks. -/
  word : List Glyph := []
  /-- Was the last glyph part of a word? -/
  inWord : Bool := false

namespace Wrapping

open Glyph (totalWidth)

/-- The blanks that no longer fit the rest of a line. -/
def dropFitting (room : Nat) : List Glyph → List Glyph
  | [] => []
  | g :: gs => if g.width ≤ room then dropFitting (room - g.width) gs else g :: gs

/-- Moves blanks and word into the line. -/
def settle (w : Wrapping) : Wrapping :=
  { w with line := w.line ++ w.blanks ++ w.word, blanks := [], word := [] }

def push (w : Wrapping) (g : Glyph) : Wrapping :=
  if g.isBlank then { w with blanks := w.blanks ++ [g], inWord := false }
  else { w with word := w.word ++ [g], inWord := true }

/-- Ends the line. Blanks that would have fitted into it are dropped. -/
def breakLine (limit : Nat) (w : Wrapping) : Wrapping :=
  { w with
    lines := w.lines ++ [w.line]
    line := []
    blanks := dropFitting (limit - totalWidth w.line) w.blanks }

/-- A word ends at a blank, or where the first word of a line has no more room. -/
def endsWord (limit : Nat) (w : Wrapping) (g : Glyph) : Bool :=
  (w.inWord && g.isBlank) ||
    (w.line.isEmpty && limit < totalWidth w.word + totalWidth w.blanks + g.width)

def isFull (limit : Nat) (w : Wrapping) (g : Glyph) : Bool :=
  limit ≤ totalWidth w.line ||
    (0 < g.width && limit ≤ totalWidth w.line + totalWidth w.blanks + totalWidth w.word)

def step (limit : Nat) (w : Wrapping) (g : Glyph) : Wrapping :=
  if limit < g.width then w
  else
    let w := if w.endsWord limit g then w.settle else w
    if w.isFull limit g then
      let w := w.breakLine limit
      if g.isBlank && w.blanks.isEmpty then w else w.push g
    else w.push g

/-- All lines. Blanks by themselves make an empty line before them. -/
def finish (w : Wrapping) : List (List Glyph) :=
  let lines :=
    if w.line.isEmpty && w.word.isEmpty && !w.blanks.isEmpty then w.lines ++ [[]] else w.lines
  let line := w.settle.line
  let lines := if line.isEmpty then lines else lines ++ [line]
  if lines.isEmpty then [[]] else lines

end Wrapping

/-- The lines of at most `limit` cells that a line is broken into. -/
def wrap (limit : Nat) (gs : List Glyph) : List (List Glyph) :=
  (gs.foldl (Wrapping.step limit) {}).finish

end WaybillBoard.Screen
