import Golden.Text.Bytes

/-!
# YAML tokens

The units that the text of a stream is made of. Besides the indicators that are written, there are
tokens for the starts and ends of block collections, which indentation alone gives away, and for the
keys of mappings, which are recognized only by the colon after them.
-/

namespace Golden.Yaml

/-- How a scalar is written. -/
inductive Style where
  | plain
  | singleQuoted
  | doubleQuoted
  | literal
  | folded
deriving DecidableEq, Repr

/-- A token of a stream. -/
inductive Token where
  | streamStart
  | streamEnd
  | versionDirective (major minor : Nat)
  | tagDirective (handle replacement : Bytes)
  | documentStart
  | documentEnd
  | blockSequenceStart
  | blockMappingStart
  | blockEnd
  | flowSequenceStart
  | flowSequenceEnd
  | flowMappingStart
  | flowMappingEnd
  | blockEntry
  | flowEntry
  | key
  | value
  | alias (name : Bytes)
  | anchor (name : Bytes)
  | tag (handle suffix : Bytes)
  | scalar (text : Bytes) (style : Style)
deriving DecidableEq, Repr

end Golden.Yaml
