/-!
# Phrasebook.Yaml.Token

The tokens of a YAML text.

Block structure has no signs of its own in the text: the start of a block collection, its end, and
the key of a simple `key: value` pair are told by indentation and by the colon behind the key.
Among the tokens they stand in their places like all others.

A tag is a sequence of octets, which may be the UTF-8 form of a text and need not be.
-/

namespace Phrasebook

/-- How a scalar is written, as far as its meaning hangs on it. -/
inductive ScalarForm where
  /-- Without quotes, and no block. -/
  | plain
  /-- A block that keeps its line breaks. -/
  | literal
  /-- In quotes, or a block whose lines are joined. -/
  | other
  deriving DecidableEq, Repr

/-- A token of a YAML text. -/
inductive YamlToken where
  /-- A directive for the version of the language. -/
  | versionDirective
  /-- A directive that gives a tag handle its meaning. -/
  | tagDirective (handle : String) (meaning : List UInt8)
  | documentStart
  | documentEnd
  | blockSequenceStart
  | blockMappingStart
  | blockEnd
  | flowSequenceStart
  | flowSequenceEnd
  | flowMappingStart
  | flowMappingEnd
  /-- The dash before an item of a block sequence. -/
  | blockEntry
  /-- The comma between items in brackets. -/
  | flowEntry
  | key
  | value
  | alias (name : String)
  | anchor (name : String)
  | tag (handle : String) (suffix : List UInt8)
  | scalar (form : ScalarForm) (text : String)
  deriving DecidableEq, Repr

end Phrasebook
