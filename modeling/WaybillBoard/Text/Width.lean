import WaybillBoard.Text.Blank
import WaybillBoard.Text.Grapheme
import WaybillBoard.Text.Width.Table

/-!
The number of terminal cells that a text takes.
-/

namespace WaybillBoard.Text

/-- The cells of a character by itself. -/
def charWidth (c : Char) : Nat :=
  let n := c.toNat
  if n < 0xA0 then 1
  else if inRanges Width.emptyRanges n then 0
  else if inRanges Width.wideRanges n then 2
  else 1

/-- The cells of characters that do not act on each other. -/
def plainWidth (cs : List Char) : Nat := cs.foldl (fun n c => n + charWidth c) 0

namespace Width

def isPictograph (c : Char) : Bool := Grapheme.Kind.of c = .pictograph

/-- Can a variation selector turn the character into a picture? -/
def mayBePicture (c : Char) : Bool := isPictograph c || isDigit c || c = '#' || c = '*'

/-- A tone of skin, which colors the picture before it. -/
def isSkinTone (c : Char) : Bool := 0x1F3FB ≤ c.toNat && c.toNat ≤ 0x1F3FF

/-- Is the grapheme one picture of several characters? -/
def isPicture : List Char → Bool
  | c :: d :: cs =>
    (mayBePicture c && d.toNat = 0xFE0F) ||
      (isPictograph c && (d :: cs).any (fun e => isPictograph e || isSkinTone e))
  | _ => false

/-- Wide signs that are no pictures until a variation selector makes them such. -/
def isWideSign (c : Char) : Bool :=
  let n := c.toNat
  n = 0x3030 || n = 0x303D || n = 0x3297 || n = 0x3299 || (0x1F200 ≤ n && n ≤ 0x1F2FF)

/-- Does a variation selector turn a picture into a letter? -/
def isLetterForm : List Char → Bool
  | c :: d :: _ => d.toNat = 0xFE0E && isPictograph c && charWidth c = 2 && !isWideSign c
  | _ => false

end Width

/-- The cells of a grapheme. A picture takes two, however many characters it is made of. -/
def graphemeWidth (g : List Char) : Nat :=
  if Width.isPicture g then 2 else if Width.isLetterForm g then 1 else plainWidth g

/-- The cells of a text. -/
def width (cs : List Char) : Nat := (graphemes cs).foldl (fun n g => n + graphemeWidth g) 0

end WaybillBoard.Text
