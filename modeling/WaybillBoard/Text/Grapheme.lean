import WaybillBoard.Text.Grapheme.Table
import WaybillBoard.Text.Ranges

/-!
Graphemes: what a reader takes for one character, by the extended rules of Unicode. Marks stay with
their base, a joiner ties pictographs together, and Hangul letters form syllables.
-/

namespace WaybillBoard.Text

namespace Grapheme

/-- What a character does to the grapheme before it and the one after it. -/
inductive Kind
  | carriageReturn
  | lineFeed
  | control
  | extend
  | joiner
  | spacing
  | leadingMark
  | region
  | initialLetter
  | medialLetter
  | finalLetter
  | openSyllable
  | closedSyllable
  | pictograph
  | other
  deriving DecidableEq, Repr

/-- The part of a Hangul syllable that a character is. -/
def hangul? (n : Nat) : Option Kind :=
  if (0x1100 ≤ n ∧ n ≤ 0x115F) ∨ (0xA960 ≤ n ∧ n ≤ 0xA97C) then some .initialLetter
  else if (0x1160 ≤ n ∧ n ≤ 0x11A7) ∨ (0xD7B0 ≤ n ∧ n ≤ 0xD7C6) then some .medialLetter
  else if (0x11A8 ≤ n ∧ n ≤ 0x11FF) ∨ (0xD7CB ≤ n ∧ n ≤ 0xD7FB) then some .finalLetter
  else if 0xAC00 ≤ n ∧ n ≤ 0xD7A3 then
    some (if (n - 0xAC00) % 28 = 0 then .openSyllable else .closedSyllable)
  else none

def Kind.of (c : Char) : Kind :=
  let n := c.toNat
  if n = 0x0D then .carriageReturn
  else if n = 0x0A then .lineFeed
  else if 0x20 ≤ n ∧ n < 0x7F then .other
  else if n = 0x200D then .joiner
  else if inRanges controlRanges n then .control
  else if inRanges extendRanges n then .extend
  else if inRanges spacingRanges n then .spacing
  else if inRanges prependRanges n then .leadingMark
  else if 0x1F1E6 ≤ n ∧ n ≤ 0x1F1FF then .region
  else if inRanges pictographRanges n then .pictograph
  else (hangul? n).getD .other

def Kind.standsAlone : Kind → Bool
  | .carriageReturn | .lineFeed | .control => true
  | _ => false

/-- Do two Hangul letters or syllables belong together? -/
def syllableGoesOn : Kind → Kind → Bool
  | .initialLetter, .initialLetter | .initialLetter, .medialLetter => true
  | .initialLetter, .openSyllable | .initialLetter, .closedSyllable => true
  | .openSyllable, .medialLetter | .openSyllable, .finalLetter => true
  | .medialLetter, .medialLetter | .medialLetter, .finalLetter => true
  | .closedSyllable, .finalLetter | .finalLetter, .finalLetter => true
  | _, _ => false

/-- Does a character go on with a grapheme, whose characters are given the last first? -/
def goesOn (grapheme : List Kind) (next : Kind) : Bool :=
  match grapheme with
  | [] => true
  | last :: before =>
    if last = .carriageReturn ∧ next = .lineFeed then true
    else if last.standsAlone || next.standsAlone then false
    else if next = .extend ∨ next = .joiner ∨ next = .spacing ∨ last = .leadingMark then true
    else if syllableGoesOn last next then true
    else if last = .joiner ∧ next = .pictograph then
      (before.dropWhile (· = .extend)).head? = some .pictograph
    else if last = .region ∧ next = .region then
      (before.takeWhile (· = .region)).length % 2 = 0
    else false

/-- Splits the rest of a text, given the characters of the present grapheme, the last first. -/
def split (current : List Char) (kinds : List Kind) : List Char → List (List Char)
  | [] => if current.isEmpty then [] else [current.reverse]
  | c :: cs =>
    let kind := Kind.of c
    if goesOn kinds kind then split (c :: current) (kind :: kinds) cs
    else current.reverse :: split [c] [kind] cs

end Grapheme

/-- The graphemes of a text. -/
def graphemes (cs : List Char) : List (List Char) := Grapheme.split [] [] cs

end WaybillBoard.Text
