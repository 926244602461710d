import WaybillBoard.Yaml.Token
import WaybillBoard.Yaml.Scalar
import WaybillBoard.Yaml.Plain
import WaybillBoard.Yaml.SingleQuoted
import WaybillBoard.Yaml.DoubleQuoted
import WaybillBoard.Yaml.BlockText

/-!
The style in which a text is written: as plainly as it can be and still read back as that text.
-/

namespace WaybillBoard.Yaml.Style

/-- Do two characters with these properties follow each other? -/
def hasPair (p q : Char → Bool) : List Char → Bool
  | a :: b :: cs => (p a && q b) || hasPair p q (b :: cs)
  | _ => false

/-- Only double quotes can hold these texts. -/
def needsEscapes (cs : List Char) : Bool :=
  cs.any (!DoubleQuoted.isPrintable ·) || hasPair (· = ' ') isBreak cs

/-- A colon before a gap or a number sign behind one, after the first character. -/
def hasLaterIndicator : Bool → List Char → Bool
  | _, [] => false
  | behindGap, c :: cs =>
    (c = ':' && gapFollows cs) || (c = '#' && behindGap) || hasLaterIndicator (isGap c) cs

/-- Does something else than a plain scalar show in the text? -/
def hasIndicator : List Char → Bool
  | [] => false
  | c :: cs =>
    (if c = '-' || c = '?' || c = ':' then gapFollows cs else Plain.isIndicator c)
      || "---".toList.isPrefixOf (c :: cs) || "...".toList.isPrefixOf (c :: cs)
      || hasLaterIndicator (isGap c) cs

def mayBePlain (cs : List Char) : Bool :=
  !(cs.isEmpty || needsEscapes cs || cs.any isBreak || cs.head? = some ' '
    || cs.getLast? = some ' ' || hasIndicator cs)

def mayBeSingleQuoted (cs : List Char) : Bool := !(needsEscapes cs || hasPair isBreak (· = ' ') cs)

def mayBeLiteral (cs : List Char) : Bool := !(needsEscapes cs || cs.getLast? = some ' ')

/-- Texts with line feeds are literal, and quotes mark a text that would read as something else. -/
def of (cs : List Char) : ScalarStyle :=
  if cs.contains '\n' then if mayBeLiteral cs then .literal else .doubleQuoted
  else if mayBePlain cs && !Scalar.isSpecial cs then .plain
  else if mayBeSingleQuoted cs then .singleQuoted
  else .doubleQuoted

/-- A text in its style, up to the end of the line. -/
def line (cs : List Char) : List Char :=
  match of cs with
  | .literal | .folded => BlockText.write cs
  | .plain => cs ++ ['\n']
  | .singleQuoted => SingleQuoted.write cs ++ ['\n']
  | .doubleQuoted => DoubleQuoted.write cs ++ ['\n']

/-- Do the breaks at the end of a literal text belong to it? -/
def isOpen (cs : List Char) : Option Bool :=
  match of cs with
  | .literal => some (match BlockText.chompingOf cs with | .keep => true | _ => false)
  | _ => none

/-- A document whose last literal text keeps its breaks is closed with an end mark. -/
def endMark (texts : List (List Char)) : List Char :=
  if (texts.filterMap isOpen).getLast? = some true then "...\n".toList else []

end WaybillBoard.Yaml.Style
