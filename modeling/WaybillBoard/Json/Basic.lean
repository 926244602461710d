/-!
JSON documents as they stand in a text: numbers keep their digits, and strings keep the octets
between their quotes, which need not spell a text.
-/

namespace WaybillBoard

/-- The octets between the quotes of a string. -/
abbrev Json.Literal := List UInt8

inductive Json
  | null
  | bool (value : Bool)
  /-- The characters of a number. -/
  | number (digits : List Char)
  | string (literal : Json.Literal)
  | array (items : List Json)
  /-- The members in the order of the text; names may repeat. -/
  | object (members : List (Json.Literal × Json))

namespace Json

mutual

/-- Do at most so many arrays and objects stand within each other? -/
def depthAtMost : Nat → Json → Bool
  | _, .null => true
  | _, .bool _ => true
  | _, .number _ => true
  | _, .string _ => true
  | 0, .array _ => false
  | 0, .object _ => false
  | depth + 1, .array items => itemsDepthAtMost depth items
  | depth + 1, .object members => membersDepthAtMost depth members

def itemsDepthAtMost (depth : Nat) : List Json → Bool
  | [] => true
  | item :: items => depthAtMost depth item && itemsDepthAtMost depth items

def membersDepthAtMost (depth : Nat) : List (Literal × Json) → Bool
  | [] => true
  | (_, value) :: members => depthAtMost depth value && membersDepthAtMost depth members

end

end Json

end WaybillBoard
