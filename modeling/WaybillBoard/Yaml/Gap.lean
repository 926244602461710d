import WaybillBoard.Yaml.Character

/-!
The blanks and breaks between two words of a scalar, and what they leave in its text.
-/

namespace WaybillBoard.Yaml

inductive Gap
  | empty
  | blanks (held : List Char)
  /-- The first break is absent when it was escaped. -/
  | breaks (first : Option Char) (others : List Char)

namespace Gap

/-- Blanks around a break are not held. -/
def add (c : Char) : Gap → Gap
  | empty => if isBreak c then breaks (some c) [] else blanks [c]
  | blanks held => if isBreak c then breaks (some c) [] else blanks (held ++ [c])
  | breaks first others => if isBreak c then breaks first (others ++ [c]) else breaks first others

def isEmpty : Gap → Bool
  | empty => true
  | _ => false

def isBroken : Gap → Bool
  | breaks _ _ => true
  | _ => false

/-- A line feed folds into a space, or into nothing when more breaks follow. -/
def text : Gap → List Char
  | empty => []
  | blanks held => held
  | breaks first others =>
    if first = some '\n' then if others.isEmpty then [' '] else others
    else first.toList ++ others

end Gap

/-- What was read of a scalar, with characters put before it. -/
def prepend (cs : List Char) : List Char × List Char → List Char × List Char
  | (text, rest) => (cs ++ text, rest)

end WaybillBoard.Yaml
