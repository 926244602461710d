import WaybillBoard.Yaml.Token
import WaybillBoard.Yaml.SingleQuoted
import WaybillBoard.Yaml.DoubleQuoted
import WaybillBoard.Yaml.Plain
import WaybillBoard.Yaml.BlockText

/-!
Tokens of a YAML text. A key without a question mark shows only at its colon, so the place where one
may have begun is kept: it must stand in the same line and not too far away.
-/

namespace WaybillBoard.Yaml

structure Place where
  index : Nat
  line : Nat
  column : Nat

def Place.after (p : Place) (c : Char) : Place :=
  if isBreak c then ⟨p.index + 1, p.line + 1, 0⟩ else ⟨p.index + 1, p.line, p.column + 1⟩

/-- The start of what may turn out to be a key. -/
structure PendingKey where
  /-- In the column of a block mapping only a key can begin. -/
  required : Bool
  /-- How many tokens stand before it. -/
  count : Nat
  place : Place

/-- No key reaches further than this. -/
def keyLimit : Nat := 1024

def PendingKey.isStale (k : PendingKey) (p : Place) : Bool :=
  k.place.line < p.line || k.place.index + keyLimit < p.index

structure Lexer where
  rest : List Char
  place : Place
  /-- The columns of the open blocks, the innermost first. -/
  blocks : List Nat
  key : Option PendingKey
  /-- The keys of the flows around, one for each. -/
  outerKeys : List (Option PendingKey)
  keyAllowed : Bool
  tokens : List Token

namespace Lexer

/-- A byte order mark at the start takes a column. -/
def start (cs : List Char) : Lexer :=
  match cs with
  | '\ufeff' :: cs => ⟨cs, ⟨1, 0, 1⟩, [], none, [], true, []⟩
  | _ => ⟨cs, ⟨0, 0, 0⟩, [], none, [], true, []⟩

/-- The column of the innermost block, and -1 outside of all. -/
def indent (lx : Lexer) : Int :=
  match lx.blocks with
  | [] => -1
  | column :: _ => column

def inFlow (lx : Lexer) : Bool := !lx.outerKeys.isEmpty

def moveTo (lx : Lexer) (rest : List Char) : Lexer :=
  { lx with
    rest
    place := (lx.rest.take (lx.rest.length - rest.length)).foldl Place.after lx.place }

def push (lx : Lexer) (token : Token) : Lexer := { lx with tokens := lx.tokens ++ [token] }

def insert (lx : Lexer) (index : Nat) (token : Token) : Lexer :=
  { lx with tokens := lx.tokens.take index ++ token :: lx.tokens.drop index }

def allowKey (lx : Lexer) (allowed : Bool) : Lexer := { lx with keyAllowed := allowed }

/-- Skips spaces, breaks and comments, and tabs where no key can begin. Outside a flow a key can
begin behind a break. -/
def skipGap (flow : Bool) : Bool → Bool → List Char → Bool × List Char
  | allowed, _, [] => (allowed, [])
  | allowed, comment, c :: cs =>
    if isBreak c then skipGap flow (allowed || !flow) false cs
    else if comment || c = ' ' || (c = '\t' && (flow || !allowed)) then
      skipGap flow allowed comment cs
    else if c = '#' then skipGap flow allowed true cs
    else (allowed, c :: cs)

def freshKey? (p : Place) : Option PendingKey → Option (Option PendingKey)
  | none => some none
  | some k => if k.isStale p then if k.required then none else some none else some (some k)

/-- Gives up the keys that cannot have their colon any more. -/
def dropStaleKeys? (lx : Lexer) : Option Lexer := do
  let key ← freshKey? lx.place lx.key
  let outerKeys ← lx.outerKeys.mapM (freshKey? lx.place)
  return { lx with key, outerKeys }

/-- Ends the blocks that stand further to the right. -/
def unroll (lx : Lexer) (column : Int) : Lexer :=
  if lx.inFlow then lx
  else
    let ended := lx.blocks.takeWhile fun block : Nat => column < (block : Int)
    { lx with
      blocks := lx.blocks.drop ended.length
      tokens := lx.tokens ++ List.replicate ended.length .blockEnd }

/-- Begins a block at the column unless one is open there. -/
def roll (lx : Lexer) (column : Nat) (index : Nat) (token : Token) : Lexer :=
  if lx.inFlow || (column : Int) ≤ lx.indent then lx
  else { lx.insert index token with blocks := column :: lx.blocks }

def dropKey? (lx : Lexer) : Option Lexer :=
  match lx.key with
  | some k => if k.required then none else some { lx with key := none }
  | none => some lx

/-- A key may begin here. -/
def saveKey? (lx : Lexer) : Option Lexer :=
  if lx.keyAllowed then do
    let required := !lx.inFlow && lx.indent = lx.place.column
    let lx' ← lx.dropKey?
    return { lx' with key := some ⟨required, lx.tokens.length, lx.place⟩ }
  else some lx

/-- Goes to the next token. -/
def settle? (lx : Lexer) : Option Lexer := do
  let (allowed, rest) := skipGap lx.inFlow lx.keyAllowed false lx.rest
  let lx ← ((lx.moveTo rest).allowKey allowed).dropStaleKeys?
  return lx.unroll lx.place.column

/-- A token that ends all blocks. -/
def mark? (lx : Lexer) (token : Token) (rest : List Char) : Option Lexer := do
  let lx ← (lx.unroll (-1)).dropKey?
  return ((lx.allowKey false).push token).moveTo rest

def flowStart? (lx : Lexer) (token : Token) (rest : List Char) : Option Lexer := do
  let lx ← lx.saveKey?
  return { (lx.push token).moveTo rest with
    key := none, outerKeys := lx.key :: lx.outerKeys, keyAllowed := true }

def flowEnd? (lx : Lexer) (token : Token) (rest : List Char) : Option Lexer := do
  let lx ← lx.dropKey?
  let lx := ((lx.push token).moveTo rest).allowKey false
  return match lx.outerKeys with
    | [] => lx
    | key :: outerKeys => { lx with key, outerKeys }

def separator? (lx : Lexer) (rest : List Char) : Option Lexer := do
  let lx ← lx.dropKey?
  return ((lx.allowKey true).push .separator).moveTo rest

def entry? (lx : Lexer) (rest : List Char) : Option Lexer :=
  if !lx.inFlow && !lx.keyAllowed then none
  else do
    let lx ← (lx.roll lx.place.column lx.tokens.length .sequenceStart).dropKey?
    return ((lx.allowKey true).push .entry).moveTo rest

def key? (lx : Lexer) (rest : List Char) : Option Lexer :=
  if !lx.inFlow && !lx.keyAllowed then none
  else do
    let lx ← (lx.roll lx.place.column lx.tokens.length .mappingStart).dropKey?
    return ((lx.allowKey (!lx.inFlow)).push .key).moveTo rest

/-- A colon makes a key of what may have been one, or stands for an empty key. -/
def value? (lx : Lexer) (rest : List Char) : Option Lexer :=
  match lx.key with
  | some k =>
    let lx := (lx.insert k.count .key).roll k.place.column k.count .mappingStart
    some (({ lx with key := none, keyAllowed := false }.push .value).moveTo rest)
  | none =>
    if !lx.inFlow && !lx.keyAllowed then none
    else
      let lx := lx.roll lx.place.column lx.tokens.length .mappingStart
      some (((lx.allowKey (!lx.inFlow)).push .value).moveTo rest)

/-- The name of an anchor ends at a gap or at one of these. -/
def name? (cs : List Char) : Option (List Char × List Char) :=
  let name := cs.takeWhile isNameChar
  let rest := cs.dropWhile isNameChar
  let ends := match rest with
    | c :: _ => ['?', ':', ',', ']', '\x7d', '%', '@', '\x60'].contains c
    | [] => true
  if name.isEmpty || !(ends || gapFollows rest) then none else some (name, rest)

def name (lx : Lexer) (token : List Char → Token) (cs : List Char) : Option Lexer := do
  let lx ← lx.saveKey?
  let (name, rest) ← name? cs
  return ((lx.allowKey false).push (token name)).moveTo rest

def tag? (lx : Lexer) : Option Lexer := do
  let lx ← lx.saveKey?
  let (tag, rest) ← Tag.read? lx.inFlow lx.rest
  return ((lx.allowKey false).push (.tag tag)).moveTo rest

def block? (lx : Lexer) (folded : Bool) (cs : List Char) : Option Lexer := do
  let lx ← lx.dropKey?
  let (text, rest) ← BlockText.scalar? folded lx.indent cs
  return ((lx.allowKey true).push (.scalar (if folded then .folded else .literal) text)).moveTo rest

def quoted? (lx : Lexer) (style : ScalarStyle) (read : Option (List Char × List Char)) :
    Option Lexer := do
  let lx ← lx.saveKey?
  let (text, rest) ← read
  return ((lx.allowKey false).push (.scalar style text)).moveTo rest

/-- A key can begin behind a plain scalar that ends with a break. -/
def plain? (lx : Lexer) : Option Lexer := do
  let lx ← lx.saveKey?
  let reading ← Plain.scalar? lx.inFlow (lx.indent + 1) lx.rest
  return ((lx.allowKey reading.broken).push (.scalar .plain reading.text)).moveTo reading.rest

/-- Takes the token that begins with `c`. -/
def take? (lx : Lexer) (c : Char) (cs : List Char) : Option Lexer :=
  let fresh := lx.place.column = 0
  if fresh && c = '%' then do
    let (directive, rest) ← Directive.read? cs
    lx.mark? (.directive directive) rest
  else if fresh && atDocumentStart (c :: cs) then lx.mark? .documentStart (cs.drop 2)
  else if fresh && atDocumentEnd (c :: cs) then lx.mark? .documentEnd (cs.drop 2)
  else if c = '[' then lx.flowStart? .flowSequenceStart cs
  else if c = '\x7b' then lx.flowStart? .flowMappingStart cs
  else if c = ']' then lx.flowEnd? .flowSequenceEnd cs
  else if c = '\x7d' then lx.flowEnd? .flowMappingEnd cs
  else if c = ',' then lx.separator? cs
  else if c = '-' && gapFollows cs then lx.entry? cs
  else if c = '?' && (lx.inFlow || gapFollows cs) then lx.key? cs
  else if c = ':' && (lx.inFlow || gapFollows cs) then lx.value? cs
  else if c = '*' then lx.name .alias cs
  else if c = '&' then lx.name .anchor cs
  else if c = '!' then lx.tag?
  else if c = '|' && !lx.inFlow then lx.block? false cs
  else if c = '>' && !lx.inFlow then lx.block? true cs
  else if c = '\x27' then lx.quoted? .singleQuoted (SingleQuoted.scalar? cs)
  else if c = '\x22' then lx.quoted? .doubleQuoted (DoubleQuoted.scalar? cs)
  else if Plain.mayBegin lx.inFlow c cs then lx.plain?
  else none

def run? (lx : Lexer) : Option (List Token) :=
  match lx.settle? with
  | none => none
  | some here =>
    match here.rest with
    | [] => ((here.unroll (-1)).dropKey?).map (·.tokens)
    | c :: cs =>
      match here.take? c cs with
      | none => none
      | some next => if next.rest.length < lx.rest.length then next.run? else none
termination_by lx.rest.length

end Lexer

/-- The tokens of a text, if it is made of tokens. -/
def Token.all? (cs : List Char) : Option (List Token) :=
  if cs.all isAllowed then (Lexer.start (unifyBreaks cs)).run? else none

end WaybillBoard.Yaml
