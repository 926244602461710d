import WaybillBoard.Yaml.Gap

/-!
Single-quoted scalars. A quote inside is written twice, and nothing else is escaped.
-/

namespace WaybillBoard.Yaml.SingleQuoted

/-- Reads up to the closing quote. `fresh` says that a line has just begun. -/
def read : Gap → Bool → List Char → Option (List Char × List Char)
  | _, _, [] => none
  | gap, _, '\x27' :: '\x27' :: cs =>
    (read .empty false cs).map (prepend (gap.text ++ ['\x27']))
  | gap, fresh, c :: cs =>
    if c = '\x27' then some (gap.text, cs)
    else if fresh && atDocumentMark (c :: cs) then none
    else if isGap c then read (gap.add c) (isBreak c) cs
    else (read .empty false cs).map (prepend (gap.text ++ [c]))

/-- The text and the rest behind an opening quote. -/
def scalar? (cs : List Char) : Option (List Char × List Char) := read .empty false cs

/-- A line goes on under its key, so a break is followed by two spaces. -/
def encode : Bool → List Char → List Char
  | broken, [] => if broken then [' ', ' '] else []
  | broken, c :: cs =>
    if isBreak c then c :: encode true cs
    else (if broken then [' ', ' '] else [])
      ++ (if c = '\x27' then ['\x27', '\x27'] else [c]) ++ encode false cs

def write (cs : List Char) : List Char := '\x27' :: (encode false cs ++ ['\x27'])

end WaybillBoard.Yaml.SingleQuoted
