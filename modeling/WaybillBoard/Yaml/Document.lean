import WaybillBoard.Yaml.Lexer
import WaybillBoard.Yaml.Node

/-!
The document that tokens make up. Each reading takes tokens from the front or fails.
-/

namespace WaybillBoard.Yaml

/-- What is left to read. -/
structure Unread where
  tokens : List Token
  /-- The anchors so far with their numbers, each name once. -/
  anchors : List (List Char × Nat)

abbrev Reading := StateT Unread Option

/-- What the handles of tags stand for. -/
abbrev Handles := List (List Char × List UInt8)

def standardHandles : Handles :=
  [(['!'], asciiOctets ['!']), (['!', '!'], asciiOctets "tag:yaml.org,2002:".toList)]

namespace Reading

def peek : Reading (Option Token) := do return (← get).tokens.head?

def skip : Reading Unit := modify fun u => { u with tokens := u.tokens.drop 1 }

/-- A new anchor has as number the count of names before it. -/
def register (name : List Char) : Reading Nat := do
  let u ← get
  let id := u.anchors.length
  set { u with anchors := (name, id) :: u.anchors.filter (·.1 ≠ name) }
  return id

def target (name : List Char) : Reading Nat := do
  match (← get).anchors.lookup name with
  | some id => return id
  | none => failure

def fullTag (handles : Handles) (tag : Tag) : Reading (List UInt8) :=
  if tag.handle.isEmpty then return tag.suffix
  else match handles.lookup tag.handle with
    | some start => return start ++ tag.suffix
    | none => failure

def tag (handles : Handles) : Reading (Option (List UInt8)) := do
  match ← peek with
  | some (.tag tag) =>
    skip
    return some (← fullTag handles tag)
  | _ => return none

def anchor : Reading (Option (List Char)) := do
  match ← peek with
  | some (.anchor name) =>
    skip
    return some name
  | _ => return none

/-- An anchor and a tag, in either order. -/
def properties (handles : Handles) : Reading (Option (List Char) × Option (List UInt8)) := do
  match ← anchor with
  | some name => return (some name, ← tag handles)
  | none =>
    match ← tag handles with
    | some tag => return (← anchor, some tag)
    | none => return (none, none)

/-- Behind an anchor or a tag there may be nothing. -/
def absent (id : Option Nat) (tag : Option (List UInt8)) : Reading Node :=
  if id.isSome || tag.isSome then return .scalar id tag .plain [] else failure

/-- No node where one of the tokens follows. -/
def emptyAt (stops : Token → Bool) (read : Reading Node) : Reading Node := do
  match ← peek with
  | some token => if stops token then return .empty else read
  | none => read

/-- The value behind a colon, if there is one. -/
def valueOr (read : Reading Node) : Reading Node := do
  match ← peek with
  | some .value =>
    skip
    read
  | _ => return .empty

def endsItem : Token → Bool
  | .entry | .blockEnd => true
  | _ => false

def endsBareItem : Token → Bool
  | .entry | .key | .value | .blockEnd => true
  | _ => false

def endsEntry : Token → Bool
  | .key | .value | .blockEnd => true
  | _ => false

def endsFlowKey : Token → Bool
  | .value | .separator | .flowMappingEnd => true
  | _ => false

def endsFlowValue : Token → Bool
  | .separator | .flowMappingEnd => true
  | _ => false

def endsPairKey : Token → Bool
  | .value | .separator | .flowSequenceEnd => true
  | _ => false

def endsPairValue : Token → Bool
  | .separator | .flowSequenceEnd => true
  | _ => false

/-- The key of a single pair. Where it is empty, the token that ends it is taken with it. -/
def pairKey (read : Reading Node) : Reading Node := do
  match ← peek with
  | some token =>
    if endsPairKey token then
      skip
      return .empty
    else read
  | none => read

/-- A comma must stand before every part of a flow but the first. -/
def comma (first : Bool) : Reading Unit := do
  if !first then
    match ← peek with
    | some .separator => skip
    | _ => failure

mutual

/-- A node. Blocks may begin only where `block` says so, and a sequence without an indentation of
its own only where `bare` does. -/
def node (handles : Handles) : (block bare : Bool) → Nat → Reading Node
  | _, _, 0 => failure
  | block, bare, fuel + 1 => do
    match ← peek with
    | some (.alias name) =>
      skip
      return .alias (← target name)
    | _ =>
      let (name, tag) ← properties handles
      let id ← name.mapM register
      match ← peek with
      | some (.scalar style text) =>
        skip
        return .scalar id tag style text
      | some .flowSequenceStart =>
        skip
        return .sequence id (← flowItems handles true fuel)
      | some .flowMappingStart =>
        skip
        return .mapping id (← flowEntries handles true fuel)
      | some .sequenceStart =>
        if block then
          skip
          return .sequence id (← items handles fuel)
        else absent id tag
      | some .mappingStart =>
        if block then
          skip
          return .mapping id (← entries handles fuel)
        else absent id tag
      | some .entry =>
        if bare then return .sequence id (← bareItems handles fuel) else absent id tag
      | _ => absent id tag

def items (handles : Handles) : Nat → Reading (List Node)
  | 0 => failure
  | fuel + 1 => do
    match ← peek with
    | some .entry =>
      skip
      let item ← emptyAt endsItem (node handles true false fuel)
      return item :: (← items handles fuel)
    | some .blockEnd =>
      skip
      return []
    | _ => failure

def bareItems (handles : Handles) : Nat → Reading (List Node)
  | 0 => failure
  | fuel + 1 => do
    match ← peek with
    | some .entry =>
      skip
      let item ← emptyAt endsBareItem (node handles true false fuel)
      return item :: (← bareItems handles fuel)
    | _ => return []

def entries (handles : Handles) : Nat → Reading (List (Node × Node))
  | 0 => failure
  | fuel + 1 => do
    match ← peek with
    | some .key =>
      skip
      let key ← emptyAt endsEntry (node handles true true fuel)
      let value ← valueOr (emptyAt endsEntry (node handles true true fuel))
      return (key, value) :: (← entries handles fuel)
    | some .blockEnd =>
      skip
      return []
    | _ => failure

def flowItems (handles : Handles) : (first : Bool) → Nat → Reading (List Node)
  | _, 0 => failure
  | first, fuel + 1 => do
    if let some .flowSequenceEnd ← peek then
      skip
      return []
    else
      comma first
      match ← peek with
      | some .flowSequenceEnd =>
        skip
        return []
      | some .key =>
        skip
        let key ← pairKey (node handles false false fuel)
        let value ← valueOr (emptyAt endsPairValue (node handles false false fuel))
        return .mapping none [(key, value)] :: (← flowItems handles false fuel)
      | _ =>
        let item ← node handles false false fuel
        return item :: (← flowItems handles false fuel)

def flowEntries (handles : Handles) : (first : Bool) → Nat → Reading (List (Node × Node))
  | _, 0 => failure
  | first, fuel + 1 => do
    if let some .flowMappingEnd ← peek then
      skip
      return []
    else
      comma first
      match ← peek with
      | some .flowMappingEnd =>
        skip
        return []
      | some .key =>
        skip
        let key ← emptyAt endsFlowKey (node handles false false fuel)
        let value ← valueOr (emptyAt endsFlowValue (node handles false false fuel))
        return (key, value) :: (← flowEntries handles false fuel)
      | _ =>
        let key ← node handles false false fuel
        return (key, .empty) :: (← flowEntries handles false fuel)

end

end Reading

namespace Directive

/-- The directives at the front. -/
def leading : List Token → List Directive × List Token
  | .directive d :: tokens =>
    let (ds, rest) := leading tokens
    (d :: ds, rest)
  | tokens => ([], tokens)

def isKnownVersion : Directive → Bool
  | .version major minor => major = 1 && (minor = 1 || minor = 2)
  | .handle _ _ => true

def isVersion : Directive → Bool
  | .version _ _ => true
  | .handle _ _ => false

def handle? : Directive → Option (List Char × List UInt8)
  | .version _ _ => none
  | .handle name target => some (name, target)

/-- At most one version, and each handle once. -/
def handles? (ds : List Directive) : Option Handles :=
  let handles := ds.filterMap handle?
  if ds.all isKnownVersion && (ds.filter isVersion).length ≤ 1
      && decide (handles.map (·.1)).Nodup then
    some (handles ++ standardHandles)
  else none

end Directive

def Token.isDocumentEnd : Token → Bool
  | .documentEnd => true
  | _ => false

def Token.endsContent : Token → Bool
  | .documentStart | .documentEnd | .directive _ => true
  | _ => false

namespace Node

/-- The root and what follows it. -/
def root? (handles : Handles) (tokens : List Token) : Option (Node × Unread) :=
  (Reading.node handles true false (2 * tokens.length + 2)).run ⟨tokens, []⟩

/-- The root of the only document. -/
def ofTokens? (tokens : List Token) : Option (Option Node) :=
  match tokens with
  | [] => some none
  | _ => do
    let (root, unread) ← match Directive.leading tokens with
      | (ds, .documentStart :: rest) => do
        let handles ← Directive.handles? ds
        match rest with
        | [] => some (Node.empty, ⟨[], []⟩)
        | token :: _ =>
          if token.endsContent then some (Node.empty, ⟨rest, []⟩) else root? handles rest
      | ([], rest) => root? standardHandles rest
      | _ => none
    if unread.tokens.all Token.isDocumentEnd then some (some root) else none

/-- The root of the document in a text. A text may also hold no document, or be none. -/
def read? (cs : List Char) : Option (Option Node) := (Token.all? cs).bind ofTokens?

end Node

end WaybillBoard.Yaml
