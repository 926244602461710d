/-!
The characters of YAML texts. Texts are read with their line breaks made uniform.
-/

namespace WaybillBoard.Yaml

/-- A text may hold these characters. -/
def isAllowed (c : Char) : Bool :=
  c = '\t' || c = '\n' || c = '\r' || c = '\u0085'
    || (0x20 ≤ c.toNat && c.toNat ≤ 0x7E) || (0xA0 ≤ c.toNat && c.toNat ≤ 0xD7FF)
    || (0xE000 ≤ c.toNat && c.toNat ≤ 0xFFFD) || 0x10000 ≤ c.toNat

/-- Every break but the line and the paragraph separator becomes a line feed. -/
def unifyBreaks : List Char → List Char
  | [] => []
  | '\r' :: '\n' :: cs => '\n' :: unifyBreaks cs
  | c :: cs => (if c = '\r' ∨ c = '\u0085' then '\n' else c) :: unifyBreaks cs

def isBreak (c : Char) : Bool := c = '\n' || c = '\u2028' || c = '\u2029'

def isBlank (c : Char) : Bool := c = ' ' || c = '\t'

def isGap (c : Char) : Bool := isBlank c || isBreak c

/-- Does a blank, a break or the end follow? -/
def gapFollows : List Char → Bool
  | [] => true
  | c :: _ => isGap c

def isNameChar (c : Char) : Bool := c.isAlphanum || c = '_' || c = '-'

def isFlowIndicator (c : Char) : Bool :=
  c = ',' || c = '[' || c = ']' || c = '\x7b' || c = '\x7d'

def markEnds (mark : Char) : List Char → Bool
  | a :: b :: c :: cs => a = mark && b = mark && c = mark && gapFollows cs
  | _ => false

/-- Three hyphens begin a document, at the start of a line and with a gap behind them. -/
def atDocumentStart (cs : List Char) : Bool := markEnds '-' cs

/-- Three dots end a document, at the start of a line and with a gap behind them. -/
def atDocumentEnd (cs : List Char) : Bool := markEnds '.' cs

def atDocumentMark (cs : List Char) : Bool := atDocumentStart cs || atDocumentEnd cs

end WaybillBoard.Yaml
