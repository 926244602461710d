import WaybillBoard.Json.Number
import WaybillBoard.Json.Text

/-!
Reading typed values out of a document. A record is an object with named fields, or an array of its
fields in order; fields that are not known are passed over, and a known field stands at most once.
-/

namespace WaybillBoard.Json

mutual

/-- Do all strings spell texts and all numbers fit? -/
def isSound : Json → Bool
  | .null => true
  | .bool _ => true
  | .number digits => (numberValue? digits).isSome
  | .string literal => literal.chars?.isSome
  | .array items => itemsAreSound items
  | .object members => membersAreSound members

def itemsAreSound : List Json → Bool
  | [] => true
  | item :: items => isSound item && itemsAreSound items

def membersAreSound : List (Literal × Json) → Bool
  | [] => true
  | (name, value) :: members =>
    name.chars?.isSome && isSound value && membersAreSound members

end

/-- The most containers that may stand within each other where nesting is limited. -/
def nestingLimit : Nat := 127

/-- Can the document be held as a value of its own, inside `around` containers? -/
def isValue (around : Nat) (j : Json) : Bool := j.depthAtMost (nestingLimit - around) && j.isSound

/-- The members of an object by their names; none when a name spells no text. -/
def namedMembers : List (Literal × Json) → Option (List (String × Json))
  | [] => some []
  | (name, value) :: members => do
    let name ← name.text?
    let members ← namedMembers members
    return (name, value) :: members

/-- The one member of that name, if there is any; none when there are several. -/
def onlyMember (name : String) (members : List (String × Json)) : Option (Option Json) :=
  match members.filter (fun m => m.1 = name) with
  | [] => some none
  | [m] => some (some m.2)
  | _ => none

/-- The values of the fields in order, each at most once. -/
def fields (names : List String) : Json → Option (List (Option Json))
  | .array items =>
    if items.length ≤ names.length then
      some (items.map some ++ List.replicate (names.length - items.length) none)
    else none
  | .object members => do
    let members ← namedMembers members
    names.mapM (onlyMember · members)
  | _ => none

/-- The value of a field, or the default when it is absent. -/
def fieldOr {α : Type} (default : α) (read : Json → Option α) : Option Json → Option α
  | none => some default
  | some j => read j

/-- A value that may be `null`. -/
def nullable {α : Type} (read : Json → Option α) : Json → Option (Option α)
  | .null => some none
  | j => (read j).map some

/-- `null` is the default. -/
def nullOr {α : Type} (default : α) (read : Json → Option α) (j : Json) : Option α :=
  (nullable read j).map (·.getD default)

def asText : Json → Option String
  | .string literal => literal.text?
  | _ => none

def asBool : Json → Option Bool
  | .bool b => some b
  | _ => none

/-- A whole number of 64 bits with a sign. -/
def asInt64 : Json → Option Int
  | .number digits =>
    match numberValue? digits with
    | some (.whole n) => if -0x8000000000000000 ≤ n ∧ n < 0x8000000000000000 then some n else none
    | _ => none
  | _ => none

def asList {α : Type} (read : Json → Option α) : Json → Option (List α)
  | .array items => items.mapM read
  | _ => none

/-- A member, unless it is absent. -/
def memberIf (name : String) (value : Option Json) : List (Literal × Json) :=
  match value with
  | none => []
  | some value => [(Literal.ofChars name.toList, value)]

def member (name : String) (value : Json) : List (Literal × Json) :=
  [(Literal.ofChars name.toList, value)]

/-- The document of a value, `null` for none. -/
def orNull {α : Type} (write : α → Json) : Option α → Json
  | none => .null
  | some a => write a

end WaybillBoard.Json
