import WaybillBoard.Json.Text

/-!
Writing JSON: on one line, or with every item and member on a line of its own.
-/

namespace WaybillBoard.Json

/-- The octets of ASCII characters. -/
def asciiOctets (cs : List Char) : List UInt8 := cs.map (fun c => c.toNat.toUInt8)

def quoted (literal : Literal) : List UInt8 := 0x22 :: (literal ++ [0x22])

def renderScalar : Json → List UInt8
  | .null => asciiOctets "null".toList
  | .bool true => asciiOctets "true".toList
  | .bool false => asciiOctets "false".toList
  | .number digits => asciiOctets digits
  | .string literal => quoted literal
  | _ => []

mutual

/-- The document without blanks. -/
def render : Json → List UInt8
  | .array items => 0x5B :: (renderItems items ++ [0x5D])
  | .object members => 0x7B :: (renderMembers members ++ [0x7D])
  | .null => renderScalar .null
  | .bool b => renderScalar (.bool b)
  | .number digits => renderScalar (.number digits)
  | .string literal => renderScalar (.string literal)

def renderItems : List Json → List UInt8
  | [] => []
  | [item] => render item
  | item :: items => render item ++ 0x2C :: renderItems items

def renderMembers : List (Literal × Json) → List UInt8
  | [] => []
  | [(name, value)] => quoted name ++ 0x3A :: render value
  | (name, value) :: members =>
    quoted name ++ 0x3A :: (render value ++ 0x2C :: renderMembers members)

end

/-- A line break and two blanks for each open container. -/
def newLine (depth : Nat) : List UInt8 := 0x0A :: List.replicate (2 * depth) 0x20

mutual

/-- The document over several lines, inside `depth` containers. -/
def renderLines (depth : Nat) : Json → List UInt8
  | .array [] => [0x5B, 0x5D]
  | .array items => 0x5B :: (itemLines (depth + 1) items ++ newLine depth ++ [0x5D])
  | .object [] => [0x7B, 0x7D]
  | .object members => 0x7B :: (memberLines (depth + 1) members ++ newLine depth ++ [0x7D])
  | .null => renderScalar .null
  | .bool b => renderScalar (.bool b)
  | .number digits => renderScalar (.number digits)
  | .string literal => renderScalar (.string literal)

def itemLines (depth : Nat) : List Json → List UInt8
  | [] => []
  | [item] => newLine depth ++ renderLines depth item
  | item :: items => newLine depth ++ renderLines depth item ++ 0x2C :: itemLines depth items

def memberLines (depth : Nat) : List (Literal × Json) → List UInt8
  | [] => []
  | [(name, value)] =>
    newLine depth ++ quoted name ++ [0x3A, 0x20] ++ renderLines depth value
  | (name, value) :: members =>
    newLine depth ++ quoted name ++ [0x3A, 0x20] ++ renderLines depth value ++
      0x2C :: memberLines depth members

end

/-- The text of octets that spell one. -/
def textOf (octets : List UInt8) : String :=
  String.ofList ((Text.Octets.decode octets).getD [])

/-- The document over several lines. -/
def pretty (document : Json) : String := textOf (renderLines 0 document)

end WaybillBoard.Json
