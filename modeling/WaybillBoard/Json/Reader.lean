import WaybillBoard.Json.Basic

/-!
Reading a JSON document one octet at a time. The state holds the containers that are open, so the
nesting of a document has no limit here; what a string or a number is worth is not asked.
-/

namespace WaybillBoard.Json

/-- A container that has begun, with what it holds so far, the last first. -/
inductive Frame
  | array (items : List Json)
  | object (members : List (Literal × Json)) (name : Literal)

/-- What may come next, and the containers around it, the innermost first. -/
inductive Place
  | value (frames : List Frame)
  | itemOrEnd (frames : List Frame)
  | afterItem (items : List Json) (frames : List Frame)
  | nameOrEnd (frames : List Frame)
  | memberName (members : List (Literal × Json)) (frames : List Frame)
  | colon (members : List (Literal × Json)) (name : Literal) (frames : List Frame)
  | afterMember (members : List (Literal × Json)) (frames : List Frame)
  | done (document : Json)

/-- A finished value in its place. -/
def Place.filled (value : Json) : List Frame → Place
  | [] => .done value
  | .array items :: rest => .afterItem (value :: items) rest
  | .object members name :: rest => .afterMember ((name, value) :: members) rest

/-- A scalar other than a string. -/
def Place.scalar (value : Json) : Place → Option Place
  | .value frames => some (filled value frames)
  | .itemOrEnd frames => some (filled value (.array [] :: frames))
  | _ => none

/-- A string is a value or the name of a member. -/
def Place.string (literal : Literal) : Place → Option Place
  | .nameOrEnd frames => some (.colon [] literal frames)
  | .memberName members frames => some (.colon members literal frames)
  | place => place.scalar (.string literal)

/-- One of the marks `[`, `]`, `{`, `}`, `,` and `:`. -/
def Place.mark (mark : UInt8) : Place → Option Place
  | .value frames =>
    if mark = 0x5B then some (.itemOrEnd frames)
    else if mark = 0x7B then some (.nameOrEnd frames)
    else none
  | .itemOrEnd frames =>
    if mark = 0x5D then some (filled (.array []) frames)
    else if mark = 0x5B then some (.itemOrEnd (.array [] :: frames))
    else if mark = 0x7B then some (.nameOrEnd (.array [] :: frames))
    else none
  | .afterItem items frames =>
    if mark = 0x2C then some (.value (.array items :: frames))
    else if mark = 0x5D then some (filled (.array items.reverse) frames)
    else none
  | .nameOrEnd frames => if mark = 0x7D then some (filled (.object []) frames) else none
  | .memberName _ _ => none
  | .colon members name frames =>
    if mark = 0x3A then some (.value (.object members name :: frames)) else none
  | .afterMember members frames =>
    if mark = 0x2C then some (.memberName members frames)
    else if mark = 0x7D then some (filled (.object members.reverse) frames)
    else none
  | .done _ => none

/-- What may follow in a string. -/
inductive Escape
  | plain
  | letter
  | hex (digits : Nat)

/-- The part of a number that was read last. -/
inductive NumberPart
  | sign
  | zero
  | whole
  | point
  | fraction
  | exponentMark
  | exponentSign
  | exponent
  deriving DecidableEq

/-- What is being read, the last octet first. -/
inductive Lexeme
  | none
  | string (read : List UInt8) (escape : Escape)
  | number (read : List UInt8) (part : NumberPart)
  /-- The rest of a word, and the value it spells. -/
  | word (rest : List UInt8) (value : Json)

structure State where
  place : Place
  lexeme : Lexeme

def isDigit (b : UInt8) : Bool := 0x30 ≤ b && b ≤ 0x39

def isHexDigit (b : UInt8) : Bool :=
  isDigit b || (0x41 ≤ b && b ≤ 0x46) || (0x61 ≤ b && b ≤ 0x66)

/-- The blanks of JSON: space, tab, line feed and carriage return. -/
def isBlank (b : UInt8) : Bool := b = 0x20 || b = 0x09 || b = 0x0A || b = 0x0D

/-- The letters after a backslash that stand for one character. -/
def isEscapeLetter (b : UInt8) : Bool :=
  [0x22, 0x5C, 0x2F, 0x62, 0x66, 0x6E, 0x72, 0x74].contains b

/-- May a number end after this part? -/
def NumberPart.mayEnd : NumberPart → Bool
  | .zero | .whole | .fraction | .exponent => true
  | _ => false

def isExponentMark (b : UInt8) : Bool := b = 0x65 || b = 0x45

/-- The part that an octet belongs to, if it continues the number. -/
def NumberPart.next (b : UInt8) : NumberPart → Option NumberPart
  | .sign => if b = 0x30 then some .zero else if isDigit b then some .whole else none
  | .zero =>
    if b = 0x2E then some .point else if isExponentMark b then some .exponentMark else none
  | .whole =>
    if isDigit b then some .whole
    else if b = 0x2E then some .point
    else if isExponentMark b then some .exponentMark
    else none
  | .point => if isDigit b then some .fraction else none
  | .fraction =>
    if isDigit b then some .fraction else if isExponentMark b then some .exponentMark else none
  | .exponentMark =>
    if isDigit b then some .exponent
    else if b = 0x2B ∨ b = 0x2D then some .exponentSign
    else none
  | .exponentSign => if isDigit b then some .exponent else none
  | .exponent => if isDigit b then some .exponent else none

/-- The characters of ASCII octets that were read backwards. -/
def charsOfReversed (read : List UInt8) : List Char :=
  read.reverse.map (fun b => Char.ofNat b.toNat)

/-- An octet outside strings, numbers and words. -/
def stepBetween (place : Place) (b : UInt8) : Option State :=
  if isBlank b then some ⟨place, .none⟩
  else if b = 0x22 then some ⟨place, .string [] .plain⟩
  else if b = 0x2D then some ⟨place, .number [b] .sign⟩
  else if b = 0x30 then some ⟨place, .number [b] .zero⟩
  else if isDigit b then some ⟨place, .number [b] .whole⟩
  else if b = 0x6E then some ⟨place, .word [0x75, 0x6C, 0x6C] .null⟩
  else if b = 0x74 then some ⟨place, .word [0x72, 0x75, 0x65] (.bool true)⟩
  else if b = 0x66 then some ⟨place, .word [0x61, 0x6C, 0x73, 0x65] (.bool false)⟩
  else (place.mark b).map (⟨·, .none⟩)

/-- An octet inside a string. -/
def stepString (place : Place) (read : List UInt8) (b : UInt8) : Escape → Option State
  | .plain =>
    if b = 0x22 then (place.string read.reverse).map (⟨·, .none⟩)
    else if b = 0x5C then some ⟨place, .string (b :: read) .letter⟩
    else if b < 0x20 then none
    else some ⟨place, .string (b :: read) .plain⟩
  | .letter =>
    if isEscapeLetter b then some ⟨place, .string (b :: read) .plain⟩
    else if b = 0x75 then some ⟨place, .string (b :: read) (.hex 3)⟩
    else none
  | .hex more =>
    if isHexDigit b then
      some ⟨place, .string (b :: read) (if more = 0 then .plain else .hex (more - 1))⟩
    else none

/-- An octet after part of a number: more of it, or what follows it. -/
def stepNumber (place : Place) (read : List UInt8) (part : NumberPart) (b : UInt8) :
    Option State :=
  match part.next b with
  | some next => some ⟨place, .number (b :: read) next⟩
  | none =>
    if part.mayEnd then
      (place.scalar (.number (charsOfReversed read))).bind (stepBetween · b)
    else none

def stepWord (place : Place) (rest : List UInt8) (value : Json) (b : UInt8) : Option State :=
  match rest with
  | [] => none
  | [c] => if b = c then (place.scalar value).map (⟨·, .none⟩) else none
  | c :: rest => if b = c then some ⟨place, .word rest value⟩ else none

def step (state : State) (b : UInt8) : Option State :=
  match state.lexeme with
  | .none => stepBetween state.place b
  | .string read escape => stepString state.place read b escape
  | .number read part => stepNumber state.place read part b
  | .word rest value => stepWord state.place rest value b

/-- The document of a state in which the text may end. -/
def finish (state : State) : Option Json :=
  let place := match state.lexeme with
    | .none => some state.place
    | .number read part =>
      if part.mayEnd then state.place.scalar (.number (charsOfReversed read)) else none
    | _ => none
  match place with
  | some (.done document) => some document
  | _ => none

def start : State := ⟨.value [], .none⟩

/-- Goes on from a state to the end of the octets. -/
def readFrom (state : State) : List UInt8 → Option Json
  | [] => finish state
  | b :: bs =>
    match step state b with
    | none => none
    | some next => readFrom next bs

/-- The document that the octets spell. -/
def read (bs : List UInt8) : Option Json := readFrom start bs

end WaybillBoard.Json
