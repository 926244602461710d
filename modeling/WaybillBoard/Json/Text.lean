import WaybillBoard.Json.Basic
import WaybillBoard.Text.Octets

/-!
Strings of JSON: the text of a literal, and the literal of a text.
-/

namespace WaybillBoard.Json

def hexValue (b : UInt8) : Nat :=
  let n := b.toNat
  if n < 0x3A then n - 0x30 else if n < 0x47 then n - 0x37 else n - 0x57

def hexWord (a b c d : UInt8) : Nat :=
  ((hexValue a * 16 + hexValue b) * 16 + hexValue c) * 16 + hexValue d

/-- The octet that a letter after a backslash stands for. -/
def escaped (letter : UInt8) : UInt8 :=
  if letter = 0x62 then 0x08
  else if letter = 0x66 then 0x0C
  else if letter = 0x6E then 0x0A
  else if letter = 0x72 then 0x0D
  else if letter = 0x74 then 0x09
  else letter

/-- The character of two halves of a surrogate pair. -/
def ofSurrogates (high low : Nat) : Char :=
  Char.ofNat (0x10000 + (high - 0xD800) * 0x400 + (low - 0xDC00))

/-- The octets that a literal stands for, appended to those before it, which are in reverse. A
surrogate must be half of a pair. -/
def Literal.octetsOnto (before : List UInt8) : Literal → Option (List UInt8)
  | [] => some before.reverse
  | 0x5C :: 0x75 :: a :: b :: c :: d :: rest =>
    let high := hexWord a b c d
    if 0xDC00 ≤ high ∧ high ≤ 0xDFFF then none
    else if 0xD800 ≤ high ∧ high ≤ 0xDBFF then
      match rest with
      | 0x5C :: 0x75 :: a :: b :: c :: d :: rest =>
        let low := hexWord a b c d
        if 0xDC00 ≤ low ∧ low ≤ 0xDFFF then
          octetsOnto ((String.utf8EncodeChar (ofSurrogates high low)).reverse ++ before) rest
        else none
      | _ => none
    else octetsOnto ((String.utf8EncodeChar (Char.ofNat high)).reverse ++ before) rest
  | 0x5C :: letter :: rest => octetsOnto (escaped letter :: before) rest
  | b :: rest => octetsOnto (b :: before) rest

/-- The text of a literal, unless it has none. -/
def Literal.chars? (literal : Literal) : Option (List Char) :=
  (literal.octetsOnto []).bind Text.Octets.decode

def Literal.text? (literal : Literal) : Option String := literal.chars?.map String.ofList

def hexDigit (n : Nat) : UInt8 := if n < 10 then (0x30 + n).toUInt8 else (0x57 + n).toUInt8

/-- The octets of a character in a literal: quotes, backslashes and control characters are
escaped, everything else stands for itself. -/
def escapeChar (c : Char) : List UInt8 :=
  if c.toNat = 0x22 ∨ c.toNat = 0x5C then [0x5C, c.toNat.toUInt8]
  else if c.toNat = 0x08 then [0x5C, 0x62]
  else if c.toNat = 0x0C then [0x5C, 0x66]
  else if c.toNat = 0x0A then [0x5C, 0x6E]
  else if c.toNat = 0x0D then [0x5C, 0x72]
  else if c.toNat = 0x09 then [0x5C, 0x74]
  else if c.toNat < 0x20 then
    [0x5C, 0x75, 0x30, 0x30, hexDigit (c.toNat / 16), hexDigit (c.toNat % 16)]
  else String.utf8EncodeChar c

def Literal.ofChars (cs : List Char) : Literal := cs.flatMap escapeChar

/-- The string of a text. -/
def text (s : String) : Json := .string (Literal.ofChars s.toList)

/-- The string of a list of characters. -/
def chars (cs : List Char) : Json := .string (Literal.ofChars cs)

end WaybillBoard.Json
