import DesignLint.Text.Basic

/-! # Tokens

The pieces into which a document is taken apart. Collections in blocks have no brackets of their
own in a document; the tokens for their ends are put in where the indentation tells. -/

namespace DesignLint.Yaml

/-- A tag as it is written. -/
structure TagName where
  /-- The short name of a namespace between exclamation marks; none if the tag is complete. -/
  handle : Option Text
  /-- The tag, or its part behind the handle. -/
  suffix : Text
  deriving Repr, DecidableEq

/-- A directive in front of a document. -/
inductive Directive where
  /-- The version of the language, without its last part. -/
  | version (major : Nat)
  /-- A namespace with its short name. -/
  | tag (handle beginning : Text)
  /-- Any other directive. -/
  | other
  deriving Repr, DecidableEq

/-- A token. -/
inductive Token where
  /-- The end of the stream. -/
  | streamEnd
  /-- A directive. -/
  | directive (directive : Directive)
  /-- The mark at the start of a document. -/
  | documentStart
  /-- The mark at the end of a document. -/
  | documentEnd
  /-- The start of a sequence in a block. -/
  | blockSequenceStart
  /-- The start of a mapping in a block. -/
  | blockMappingStart
  /-- The end of a collection in a block. -/
  | blockEnd
  /-- The bracket in front of a sequence. -/
  | flowSequenceStart
  /-- The bracket behind a sequence. -/
  | flowSequenceEnd
  /-- The brace in front of a mapping. -/
  | flowMappingStart
  /-- The brace behind a mapping. -/
  | flowMappingEnd
  /-- The mark in front of an item of a sequence in a block. -/
  | blockEntry
  /-- The comma in a collection with brackets. -/
  | flowEntry
  /-- The start of a key. -/
  | key
  /-- The start of a value. -/
  | value
  /-- Another place for the node with a name. -/
  | alias (name : Text)
  /-- The name of a node. -/
  | anchor (name : Text)
  /-- The tag of a node. -/
  | tag (name : TagName)
  /-- The text of a scalar, which is plain if it stands without quotes and marks. -/
  | scalar (text : Text) (plain : Bool)
  deriving Repr, DecidableEq

end DesignLint.Yaml
