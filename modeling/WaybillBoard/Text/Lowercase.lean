import WaybillBoard.Text.Lowercase.Table
import WaybillBoard.Text.Ranges

/-!
Lower case by the full Unicode mapping: a capital I with a dot becomes two characters, and a
capital sigma takes its final form at the end of a word.
-/

namespace WaybillBoard.Text

namespace Lowercase

def isCased (c : Char) : Bool := inRanges casedRanges c.toNat

def isCaseIgnorable (c : Char) : Bool := inRanges caseIgnorableRanges c.toNat

/-- Is the first character that is not case-ignorable a cased one? -/
def startsCased (cs : List Char) : Bool :=
  match cs.dropWhile isCaseIgnorable with
  | [] => false
  | c :: _ => isCased c

/-- The lower case of one character where it is one other character. -/
def single (c : Char) : Char :=
  let n := c.toNat
  match runs.find? (fun r => r.first ≤ n && n ≤ r.last) with
  | some r => if (n - r.first) % r.step = 0 then Char.ofNat (Int.toNat (n + r.offset)) else c
  | none => c

/-- The lower case of a character between the characters before it, nearest first, and after it. -/
def mapped (before : List Char) (c : Char) (after : List Char) : List Char :=
  if c.toNat < 0x80 then [if 'A' ≤ c && c ≤ 'Z' then Char.ofNat (c.toNat + 32) else c]
  else if c.toNat = 0x3A3 then
    if startsCased before && !startsCased after then [Char.ofNat 0x3C2] else [Char.ofNat 0x3C3]
  else if c.toNat = 0x130 then ['i', Char.ofNat 0x307]
  else [single c]

/-- The lower case of the rest of a text, given what stands before it, nearest first. -/
def after (before : List Char) : List Char → List Char
  | [] => []
  | c :: cs => mapped before c cs ++ after (c :: before) cs

end Lowercase

/-- The lower case of a text. -/
def lowercase (cs : List Char) : List Char := Lowercase.after [] cs

end WaybillBoard.Text
