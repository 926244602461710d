import WaybillBoard.Yaml.Gap

/-!
Double-quoted scalars. Every character has an escape, so every text can be written.
-/

namespace WaybillBoard.Yaml.DoubleQuoted

/-- The characters that a letter behind a backslash stands for. -/
def letters : List (Char × Char) :=
  [('0', '\x00'), ('a', '\x07'), ('b', '\x08'), ('t', '\t'), ('n', '\n'), ('v', '\x0b'),
    ('f', '\x0c'), ('r', '\r'), ('e', '\x1b'), ('\x22', '\x22'), ('\\', '\\'),
    ('N', '\u0085'), ('_', '\u00a0'), ('L', '\u2028'), ('P', '\u2029')]

inductive Escape
  | char (c : Char)
  /-- The number of the character follows in so many digits. -/
  | code (digits : Nat)

/-- A space, a slash and a tab may be escaped but need not. -/
def Escape.of? (c : Char) : Option Escape :=
  if c = 'x' then some (.code 2)
  else if c = 'u' then some (.code 4)
  else if c = 'U' then some (.code 8)
  else if c = ' ' ∨ c = '/' ∨ c = '\t' then some (.char c)
  else (letters.lookup c).map .char

def hexDigit? (c : Char) : Option Nat :=
  if '0' ≤ c ∧ c ≤ '9' then some (c.toNat - 48)
  else if 'A' ≤ c ∧ c ≤ 'F' then some (c.toNat - 55)
  else if 'a' ≤ c ∧ c ≤ 'f' then some (c.toNat - 87)
  else none

def hexValue? (cs : List Char) : Option Nat :=
  cs.foldlM (fun n c => (hexDigit? c).map (16 * n + ·)) 0

/-- The character whose number stands in the digits. -/
def numbered? (digits : Nat) (cs : List Char) : Option Char := do
  let code ← if cs.length < digits then none else hexValue? (cs.take digits)
  if h : code.isValidChar then some (Char.ofNatAux code h) else none

/-- Reads up to the closing quote. `fresh` says that a line has just begun. -/
def read (gap : Gap) (fresh : Bool) : List Char → Option (List Char × List Char)
  | [] => none
  | c :: cs =>
    if c = '\x22' then some (gap.text, cs)
    else if fresh && atDocumentMark (c :: cs) then none
    else if isGap c then read (gap.add c) (isBreak c) cs
    else if c ≠ '\\' then (read .empty false cs).map (prepend (gap.text ++ [c]))
    else match cs with
      | [] => none
      | e :: cs =>
        if isBreak e then (read (.breaks none []) true cs).map (prepend gap.text)
        else match Escape.of? e with
          | none => none
          | some (.char x) => (read .empty false cs).map (prepend (gap.text ++ [x]))
          | some (.code digits) =>
            match numbered? digits cs with
            | none => none
            | some x => (read .empty false (cs.drop digits)).map (prepend (gap.text ++ [x]))
termination_by cs => cs.length
decreasing_by all_goals simp +arith

/-- The text and the rest behind an opening quote. -/
def scalar? (cs : List Char) : Option (List Char × List Char) := read .empty false cs

/-- These characters stand for themselves in a scalar of any style. -/
def isPrintable (c : Char) : Bool :=
  c = '\n' || (0x20 ≤ c.toNat && c.toNat ≤ 0x7E) || (0xA0 ≤ c.toNat && c.toNat ≤ 0xD7FF)
    || (0xE000 ≤ c.toNat && c.toNat ≤ 0xFFFD && c ≠ '\ufeff') || 0x10000 ≤ c.toNat

def hexDigits (width n : Nat) : List Char :=
  let digits := (Nat.toDigits 16 n).map Char.toUpper
  List.replicate (width - digits.length) '0' ++ digits

def numbered (c : Char) : List Char :=
  if c.toNat ≤ 0xFF then 'x' :: hexDigits 2 c.toNat
  else if c.toNat ≤ 0xFFFF then 'u' :: hexDigits 4 c.toNat
  else 'U' :: hexDigits 8 c.toNat

def encodeChar (c : Char) : List Char :=
  if isPrintable c && !isBreak c && c ≠ '\x22' && c ≠ '\\' then [c]
  else match letters.find? (·.2 = c) with
    | some (letter, _) => ['\\', letter]
    | none => '\\' :: numbered c

def write (cs : List Char) : List Char := '\x22' :: (cs.flatMap encodeChar ++ ['\x22'])

end WaybillBoard.Yaml.DoubleQuoted
