import WaybillBoard.Text.Octets

/-!
Percent-encoding: octets that may not stand for themselves are written as `%` and two hexadecimal
digits. Which characters those are depends on the part of a URL.
-/

namespace WaybillBoard.Url.Percent

/-- Characters that are encoded besides the control characters and all that is not ASCII. -/
abbrev Reserved := List Char

def inFragment : Reserved := [' ', '\x22', '<', '>', '\x60']

def inPath : Reserved := inFragment ++ ['#', '?', '\x7b', '\x7d']

def inUser : Reserved := inPath ++ ['/', ':', ';', '=', '@', '[', '\\', ']', '^', '|']

def inSegment : Reserved := inPath ++ ['/', '%']

def inSpecialSegment : Reserved := inSegment ++ ['\\']

def inQuery : Reserved := [' ', '\x22', '#', '<', '>']

def inSpecialQuery : Reserved := inQuery ++ ['\x27']

def hexDigit (n : Nat) : Char := Char.ofNat (if n < 10 then 0x30 + n else 0x37 + n)

def octet (b : UInt8) : List Char := ['%', hexDigit (b.toNat / 16), hexDigit (b.toNat % 16)]

def encodeChar (reserved : Reserved) (c : Char) : List Char :=
  if c.toNat < 0x20 || 0x7E < c.toNat || reserved.contains c then
    (String.utf8EncodeChar c).flatMap octet
  else [c]

def encode (reserved : Reserved) (cs : List Char) : List Char := cs.flatMap (encodeChar reserved)

def hexValue? (c : Char) : Option Nat :=
  let n := c.toNat
  if 0x30 ≤ n ∧ n ≤ 0x39 then some (n - 0x30)
  else if 0x41 ≤ n ∧ n ≤ 0x46 then some (n - 0x37)
  else if 0x61 ≤ n ∧ n ≤ 0x66 then some (n - 0x57)
  else none

/-- The octets that a text stands for. A `%` without two digits stands for itself. -/
def decode : List Char → List UInt8
  | '%' :: a :: b :: cs =>
    match hexValue? a, hexValue? b with
    | some x, some y => (x * 16 + y).toUInt8 :: decode cs
    | _, _ => 0x25 :: decode (a :: b :: cs)
  | c :: cs => String.utf8EncodeChar c ++ decode cs
  | [] => []

end WaybillBoard.Url.Percent
