import WaybillBoard.Yaml.Character

/-!
Tags of nodes and the directives that give their handles a meaning. A tag is a sequence of octets,
of which some may be written as numbers behind a percent sign.
-/

namespace WaybillBoard.Yaml

structure Tag where
  /-- Empty, or the name between two exclamation marks with these. -/
  handle : List Char
  suffix : List UInt8
  deriving DecidableEq

inductive Directive
  | version (major minor : Nat)
  | handle (name : List Char) (target : List UInt8)

def asciiOctets (cs : List Char) : List UInt8 := cs.map fun c => c.toNat.toUInt8

namespace Tag

def isUriChar (verbatim : Bool) (c : Char) : Bool :=
  isNameChar c || ";/?:@&=+$.!~*()\x27".contains c || (verbatim && (c = ',' || c = '[' || c = ']'))

def hexDigit? (c : Char) : Option Nat :=
  if '0' ≤ c ∧ c ≤ '9' then some (c.toNat - 48)
  else if 'A' ≤ c ∧ c ≤ 'F' then some (c.toNat - 55)
  else if 'a' ≤ c ∧ c ≤ 'f' then some (c.toNat - 87)
  else none

/-- How many further octets the first octet of a character asks for. -/
def furtherOctets? (n : Nat) : Option Nat :=
  if n < 0x80 then some 0
  else if 0xC0 ≤ n ∧ n < 0xE0 then some 1
  else if 0xE0 ≤ n ∧ n < 0xF0 then some 2
  else if 0xF0 ≤ n ∧ n < 0xF8 then some 3
  else none

/-- The longest part of an identifier; `awaited` octets of a character are still to come. -/
def uri? (verbatim : Bool) : Nat → List Char → Option (List UInt8 × List Char)
  | awaited, '%' :: a :: b :: cs => do
    let n := 16 * (← hexDigit? a) + (← hexDigit? b)
    let awaited ← if awaited = 0 then furtherOctets? n
      else if 0x80 ≤ n ∧ n < 0xC0 then some (awaited - 1) else none
    let (octets, rest) ← uri? verbatim awaited cs
    return (n.toUInt8 :: octets, rest)
  | awaited, [] => if awaited = 0 then some ([], []) else none
  | awaited, c :: cs =>
    if awaited ≠ 0 ∨ c = '%' then none
    else if isUriChar verbatim c then
      (uri? verbatim 0 cs).map fun (octets, rest) => (c.toNat.toUInt8 :: octets, rest)
    else some ([], c :: cs)

def nonempty? (read : Option (List UInt8 × List Char)) : Option (List UInt8 × List Char) :=
  read.filter (!·.1.isEmpty)

/-- An exclamation mark, a name, and whether a second mark closes it. -/
def handle? : List Char → Option (List Char × Bool × List Char)
  | '!' :: cs =>
    match cs.dropWhile isNameChar with
    | '!' :: rest => some (cs.takeWhile isNameChar, true, rest)
    | rest => some (cs.takeWhile isNameChar, false, rest)
  | _ => none

def unchecked? (cs : List Char) : Option (Tag × List Char) :=
  match cs with
  | '!' :: '<' :: cs => do
    match ← nonempty? (uri? true 0 cs) with
    | (octets, '>' :: rest) => some (⟨[], octets⟩, rest)
    | _ => none
  | _ => do
    let (name, closed, rest) ← handle? cs
    if closed then
      let (octets, rest) ← nonempty? (uri? false 0 rest)
      return (⟨'!' :: name ++ ['!'], octets⟩, rest)
    else
      let (octets, rest) ← uri? false 0 rest
      if name.isEmpty && octets.isEmpty then return (⟨[], asciiOctets ['!']⟩, rest)
      else return (⟨['!'], asciiOctets name ++ octets⟩, rest)

/-- A gap must follow, or in a flow a comma. -/
def read? (flow : Bool) (cs : List Char) : Option (Tag × List Char) :=
  (unchecked? cs).filter fun (_, rest) => gapFollows rest || (flow && rest.head? = some ',')

end Tag

namespace Directive

def number? (cs : List Char) : Option (Nat × List Char) :=
  let digits := cs.takeWhile Char.isDigit
  if digits.isEmpty || 9 < digits.length then none
  else some (digits.foldl (fun n c => 10 * n + (c.toNat - 48)) 0, cs.dropWhile Char.isDigit)

def version? (cs : List Char) : Option (Directive × List Char) := do
  match ← number? (cs.dropWhile isBlank) with
  | (major, '.' :: rest) =>
    let (minor, rest) ← number? rest
    return (.version major minor, rest)
  | _ => none

def handleTarget? (cs : List Char) : Option (Directive × List Char) := do
  let (name, closed, rest) ← Tag.handle? (cs.dropWhile isBlank)
  if !closed && !name.isEmpty then none
  else
    if !(match rest with | c :: _ => isBlank c | [] => false) then none
    else
      let (target, rest) ← Tag.nonempty? (Tag.uri? true 0 (rest.dropWhile isBlank))
      if gapFollows rest then
        return (.handle ('!' :: name ++ (if closed then ['!'] else [])) target, rest)
      else none

/-- A directive ends its line; a comment may follow it. -/
def restOfLine? (cs : List Char) : Option (List Char) :=
  match cs.dropWhile isBlank with
  | [] => some []
  | '#' :: cs => some ((cs.dropWhile (!isBreak ·)).drop 1)
  | c :: cs => if isBreak c then some cs else none

/-- Reads behind the percent sign. -/
def read? (cs : List Char) : Option (Directive × List Char) := do
  let name := cs.takeWhile isNameChar
  let rest := cs.dropWhile isNameChar
  if !gapFollows rest then none
  else
    let (directive, rest) ←
      if name = "YAML".toList then version? rest
      else if name = "TAG".toList then handleTarget? rest
      else none
    return (directive, ← restOfLine? rest)

end Directive

end WaybillBoard.Yaml
