import WaybillBoard.Yaml.Tag

/-!
Tokens of YAML texts. Indentation shows as the start and the end of blocks.
-/

namespace WaybillBoard.Yaml

inductive ScalarStyle
  | plain
  | singleQuoted
  | doubleQuoted
  | literal
  | folded
  deriving DecidableEq

inductive Token
  | directive (directive : Directive)
  | documentStart
  | documentEnd
  | sequenceStart
  | mappingStart
  | blockEnd
  | flowSequenceStart
  | flowSequenceEnd
  | flowMappingStart
  | flowMappingEnd
  /-- A hyphen. -/
  | entry
  /-- A comma. -/
  | separator
  /-- A question mark, or the place where a key turned out to begin. -/
  | key
  /-- A colon. -/
  | value
  | alias (name : List Char)
  | anchor (name : List Char)
  | tag (tag : Tag)
  | scalar (style : ScalarStyle) (text : List Char)

end WaybillBoard.Yaml
