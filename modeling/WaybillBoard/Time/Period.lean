import WaybillBoard.Text.Blank

/-!
Lengths of time such as `30s`: a number and one of the units `ms`, `s`, `m` and `h`.
-/

namespace WaybillBoard.Time

/-- Why a text is no whole number. -/
inductive NumberError
  | empty
  | invalidDigit
  | tooLarge
  deriving DecidableEq, Repr

def NumberError.message : NumberError → String
  | .empty => "cannot parse integer from empty string"
  | .invalidDigit => "invalid digit found in string"
  | .tooLarge => "number too large to fit in target type"

def wordLimit : Nat := 0x10000000000000000

/-- Reads digits into a 64-bit word; the first one that is none or does not fit decides. -/
def wordFrom (n : Nat) : List Char → Except NumberError Nat
  | [] => .ok n
  | c :: cs =>
    if !Text.isDigit c then .error .invalidDigit
    else
      let next := n * 10 + (c.toNat - 48)
      if next < wordLimit then wordFrom next cs else .error .tooLarge

/-- A 64-bit number in decimal, after an optional plus. -/
def word : List Char → Except NumberError Nat
  | [] => .error .empty
  | ['+'] => .error .invalidDigit
  | '+' :: cs => wordFrom 0 cs
  | cs => wordFrom 0 cs

/-- A length of time in milliseconds. -/
structure Period where
  millis : Nat
  deriving DecidableEq, Repr

inductive PeriodError
  | invalidNumber (cause : NumberError)
  | tooLarge
  | unknownForm (text : String)
  deriving DecidableEq, Repr

/-- The messages of an error, the outermost first. -/
def PeriodError.messages : PeriodError → List String
  | .invalidNumber cause => ["Invalid duration", cause.message]
  | .tooLarge => ["Duration too large"]
  | .unknownForm text => ["Invalid duration format: " ++ text]

namespace Period

/-- A number of units of `factor` seconds each; the seconds have to fit a word. -/
def ofWord (factor : Nat) (digits : List Char) : Except PeriodError Period :=
  match word digits with
  | .error e => .error (.invalidNumber e)
  | .ok n => if n * factor < wordLimit then .ok ⟨n * factor * 1000⟩ else .error .tooLarge

/-- Reads a length of time between any blanks. -/
def read (s : String) : Except PeriodError Period :=
  let cs := Text.trim s.toList
  match Text.dropEnd? ['m', 's'] cs with
  | some digits =>
    match word digits with
    | .error e => .error (.invalidNumber e)
    | .ok n => .ok ⟨n⟩
  | none =>
    match Text.dropEnd? ['s'] cs with
    | some digits => ofWord 1 digits
    | none =>
      match Text.dropEnd? ['m'] cs with
      | some digits => ofWord 60 digits
      | none =>
        match Text.dropEnd? ['h'] cs with
        | some digits => ofWord 3600 digits
        | none => .error (.unknownForm (String.ofList cs))

def isZero (p : Period) : Bool := p.millis = 0

def seconds (p : Period) : Nat := p.millis / 1000

end Period

end WaybillBoard.Time
