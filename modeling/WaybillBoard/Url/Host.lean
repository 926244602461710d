import WaybillBoard.Text.Lowercase
import WaybillBoard.Text.Blank
import WaybillBoard.Url.Percent
import WaybillBoard.Url.Punycode

/-!
Hosts of URLs: domains and addresses of both kinds. A domain is written in ASCII and in lower case.
-/

namespace WaybillBoard.Url

/-- Why a text is no URL. -/
inductive UrlError
  | notAbsolute
  | emptyHost
  | invalidPort
  | invalidIpv4
  | invalidIpv6
  | invalidDomain
  | invalidHostCharacter
  deriving DecidableEq, Repr

def UrlError.message : UrlError → String
  | .notAbsolute => "relative URL without a base"
  | .emptyHost => "empty host"
  | .invalidPort => "invalid port number"
  | .invalidIpv4 => "invalid IPv4 address"
  | .invalidIpv6 => "invalid IPv6 address"
  | .invalidDomain => "invalid international domain name"
  | .invalidHostCharacter => "invalid domain character"

inductive Host
  | domain (name : List Char)
  | ipv4 (address : Nat)
  /-- Eight numbers of 16 bits. -/
  | ipv6 (pieces : List Nat)
  deriving DecidableEq, Repr

namespace Host

open Text (splitOn)

/-- The value of digits to a base; none when one is no such digit. -/
def digitsTo? (base : Nat) (cs : List Char) : Option Nat :=
  cs.foldl (fun value c => do
    let n ← value
    let d ← Percent.hexValue? c
    if d < base then some (n * base + d) else none) (some 0)

/-- A part of an IPv4 address: decimal, octal after a zero, or hexadecimal after `0x`. -/
def ipv4Part? : List Char → Option Nat
  | [] => none
  | '0' :: 'x' :: cs => digitsTo? 16 cs
  | '0' :: 'X' :: cs => digitsTo? 16 cs
  | '0' :: c :: cs => digitsTo? 8 (c :: cs)
  | cs => digitsTo? 10 cs

/-- The parts between dots; a dot at the end opens no further one. -/
def dottedParts (cs : List Char) : List (List Char) :=
  let parts := splitOn '.' cs
  if parts.length > 1 ∧ parts.getLast? = some [] then parts.dropLast else parts

/-- Must the domain be an IPv4 address? It must when its last part is a number. -/
def endsInNumber (cs : List Char) : Bool :=
  match (dottedParts cs).getLast? with
  | none => false
  | some last => (!last.isEmpty && last.all Text.isDigit) || (ipv4Part? last).isSome

/-- An IPv4 address of up to four parts; the last one fills what the others leave. -/
def ipv4? (cs : List Char) : Option Nat := do
  let parts := dottedParts cs
  if 4 < parts.length then none
  else
    let numbers ← parts.mapM ipv4Part?
    let last ← numbers.getLast?
    let front := numbers.dropLast
    if Nat.pow 256 (4 - front.length) ≤ last ∨ front.any (fun n => 255 < n) then none
    else some (front.foldr (fun n (sum, unit) => (sum + n * unit, unit * 256))
      (last, Nat.pow 256 (4 - front.length)) |>.1)

/-- A number from 0 to 255 in decimal, without zeros in front. -/
def byte? (cs : List Char) : Option Nat :=
  match cs with
  | [] => none
  | c :: rest =>
    if c = '0' ∧ !rest.isEmpty then none
    else if !cs.all Text.isDigit then none
    else
      let n := Text.digitsValue cs
      if n ≤ 255 then some n else none

/-- The two pieces of an IPv4 address inside an IPv6 one. -/
def embedded? (cs : List Char) : Option (List Nat) :=
  match (splitOn '.' cs).map byte? with
  | [some a, some b, some c, some d] => some [a * 256 + b, c * 256 + d]
  | _ => none

def ipv6Piece? (cs : List Char) : Option Nat :=
  if cs.isEmpty ∨ 4 < cs.length then none else digitsTo? 16 cs

/-- Pieces between colons; the last part may be an IPv4 address. -/
def ipv6Parts? : List (List Char) → Option (List Nat)
  | [] => some []
  | [cs] => if cs.contains '.' then embedded? cs else (ipv6Piece? cs).map ([·])
  | cs :: rest => do
    let piece ← ipv6Piece? cs
    let pieces ← ipv6Parts? rest
    return piece :: pieces

/-- The pieces of a part of an address; none of an empty one. -/
def ipv6Pieces? (cs : List Char) : Option (List Nat) :=
  if cs.isEmpty then some [] else ipv6Parts? (splitOn ':' cs)

/-- Splits at the first two colons. -/
def splitGap : List Char → Option (List Char × List Char)
  | ':' :: ':' :: cs => some ([], cs)
  | c :: cs => (splitGap cs).map fun (front, rest) => (c :: front, rest)
  | [] => none

/-- An IPv6 address. Two colons stand for one or more zeros. -/
def ipv6? (cs : List Char) : Option (List Nat) :=
  match splitGap cs with
  | none => do
    let pieces ← ipv6Pieces? cs
    if pieces.length = 8 then some pieces else none
  | some (front, rest) => do
    if front.contains '.' then none
    else
      let first ← ipv6Pieces? front
      let last ← ipv6Pieces? rest
      let count := first.length + last.length
      if count ≤ 7 then some (first ++ List.replicate (8 - count) 0 ++ last) else none

/-- What lower case and width make of a character of a domain; some characters vanish. -/
def mapDomainChar (c : Char) : List Char :=
  let n := c.toNat
  if n < 0x80 then [Text.asciiLower c]
  else if n = 0x3002 ∨ n = 0xFF0E ∨ n = 0xFF61 then ['.']
  else if 0xFF01 ≤ n ∧ n ≤ 0xFF5E then [Text.asciiLower (Char.ofNat (n - 0xFEE0))]
  else if n = 0xAD ∨ n = 0x34F ∨ n = 0x200B ∨ n = 0x2060 ∨ n = 0xFEFF ∨
      (0xFE00 ≤ n ∧ n ≤ 0xFE0F) then []
  else Text.lowercase [c]

/-- The characters that no domain has. -/
def isForbidden (c : Char) : Bool :=
  c.toNat ≤ 0x20 || (0x7F ≤ c.toNat && c.toNat < 0xA0) || c.toNat = 0xFFFD || Text.isBlank c ||
    ['%', '#', '/', ':', '<', '>', '?', '@', '[', '\\', ']', '^', '|'].contains c

def isAscii (cs : List Char) : Bool := cs.all (fun c => c.toNat < 128)

/-- What labels begin with that are ASCII for other characters. -/
def encodedMark : List Char := ['x', 'n', '-', '-']

/-- Does a text that follows the mark stand for a label that is encoded so? -/
def isEncodedLabel (cs : List Char) : Bool :=
  match Punycode.decode? cs with
  | none => false
  | some label =>
    !isAscii label && label.flatMap mapDomainChar = label && !label.any isForbidden &&
      Punycode.encode label = cs

def labelToAscii? (label : List Char) : Option (List Char) :=
  match Text.dropStart? encodedMark label with
  | some text => if isEncodedLabel text then some label else none
  | none => some (if isAscii label then label else encodedMark ++ Punycode.encode label)

/-- The domain in ASCII. -/
def domainToAscii? (cs : List Char) : Option (List Char) := do
  let mapped := cs.flatMap mapDomainChar
  if mapped.any isForbidden then none
  else
    let labels ← (splitOn '.' mapped).mapM labelToAscii?
    return ['.'].intercalate labels

/-- An address between brackets. -/
def bracketed? (cs : List Char) : Except UrlError Host :=
  match cs.getLast? with
  | some ']' =>
    match ipv6? (cs.drop 1).dropLast with
    | some pieces => .ok (.ipv6 pieces)
    | none => .error .invalidIpv6
  | _ => .error .invalidIpv6

/-- The host of a URL whose scheme is known. -/
def read (cs : List Char) : Except UrlError Host :=
  if cs.head? = some '[' then bracketed? cs
  else
    match (Text.Octets.decode (Percent.decode cs)).bind domainToAscii? with
    | none => .error .invalidDomain
    | some name =>
      if name.isEmpty then .error .emptyHost
      else if endsInNumber name then
        match ipv4? name with
        | some address => .ok (.ipv4 address)
        | none => .error .invalidIpv4
      else .ok (.domain name)

/-- Characters that no host has, whatever the scheme. -/
def isForbiddenAnywhere (c : Char) : Bool :=
  c.toNat = 0 || isForbidden c && 0x20 ≤ c.toNat && c.toNat ≠ 0x7F && c.toNat < 0x80 && c ≠ '%'

/-- The host of a URL whose scheme is not known. -/
def readOpaque (cs : List Char) : Except UrlError Host :=
  if cs.head? = some '[' then bracketed? cs
  else if cs.any isForbiddenAnywhere then .error .invalidHostCharacter
  else .ok (.domain (Percent.encode [] cs))

/-- The place and length of the first longest run of zeros. -/
def longestZeros : List Nat → Nat × Nat
  | [] => (0, 0)
  | p :: ps =>
    let here := ((p :: ps).takeWhile (· = 0)).length
    let (place, length) := longestZeros ps
    if length ≤ here ∧ 0 < here then (0, here) else (place + 1, length)

def pieceText (n : Nat) : List Char := Nat.toDigits 16 n

def piecesText (pieces : List Nat) : List Char := [':'].intercalate (pieces.map pieceText)

/-- The shortest text of an IPv6 address. -/
def ipv6Text (pieces : List Nat) : List Char :=
  let (place, length) := longestZeros pieces
  if length < 2 then piecesText pieces
  else piecesText (pieces.take place) ++ [':', ':'] ++ piecesText (pieces.drop (place + length))

def ipv4Text (address : Nat) : List Char :=
  ['.'].intercalate ([0x1000000, 0x10000, 0x100, 1].map fun unit =>
    Text.natDigits (address / unit % 256))

def write : Host → List Char
  | .domain name => name
  | .ipv4 address => ipv4Text address
  | .ipv6 pieces => '[' :: (ipv6Text pieces ++ [']'])

end Host

end WaybillBoard.Url
