import WaybillBoard.Yaml.Gap

/-!
Plain scalars, which stand without quotes and end where the document goes on around them.
-/

namespace WaybillBoard.Yaml.Plain

/-- A plain scalar as read: its text, whether it ends behind a break, and the rest. -/
structure Reading where
  text : List Char
  broken : Bool
  rest : List Char

/-- In a flow, a colon right before these is an error. -/
def refusesColon : List Char → Bool
  | c :: _ => isFlowIndicator c || c = '?'
  | [] => false

/-- Does the document go on at `c`, which follows the gap at the column? -/
def endsAt (flow : Bool) (least : Int) (gap : Gap) (column : Nat) (c : Char) (cs : List Char) :
    Bool :=
  (gap.isBroken && ((!flow && column < least) || (column = 0 && atDocumentMark (c :: cs))))
    || (!gap.isEmpty && c = '#') || (c = ':' && gapFollows cs) || (flow && isFlowIndicator c)

/-- Reads on from a gap; `column` counts from its last break. Lines below the least column are not
part of the scalar, and a tab cannot stand before that column. -/
def read (flow : Bool) (least : Int) : Gap → Nat → List Char → Option Reading
  | gap, _, [] => some ⟨[], gap.isBroken, []⟩
  | gap, column, c :: cs =>
    if isBreak c then read flow least (gap.add c) 0 cs
    else if isBlank c then
      if gap.isBroken && c = '\t' && column < least then none
      else read flow least (gap.add c) (column + 1) cs
    else if endsAt flow least gap column c cs then some ⟨[], gap.isBroken, c :: cs⟩
    else if flow && c = ':' && refusesColon cs then none
    else (read flow least .empty 0 cs).map fun r => { r with text := gap.text ++ c :: r.text }

def scalar? (flow : Bool) (least : Int) (cs : List Char) : Option Reading :=
  read flow least .empty 0 cs

/-- These characters begin something else than a plain scalar. -/
def isIndicator (c : Char) : Bool :=
  isFlowIndicator c ||
    ['-', '?', ':', '#', '&', '*', '!', '|', '>', '\x27', '\x22', '%', '@', '\x60'].contains c

/-- May a plain scalar begin here? A hyphen, and outside a flow a question mark or a colon, begins
one when it touches the next character. -/
def mayBegin (flow : Bool) (c : Char) (cs : List Char) : Bool :=
  !(isGap c || isIndicator c)
    || (c = '-' && !(match cs with | next :: _ => isBlank next | [] => false))
    || (!flow && (c = '?' || c = ':') && !gapFollows cs)

end WaybillBoard.Yaml.Plain
