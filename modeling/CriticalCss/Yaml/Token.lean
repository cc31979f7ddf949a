import CriticalCss.Yaml.Fault

/-!
# Tokens of YAML

The source of a YAML file as tokens. Tokens that the source does not write, for the beginnings and ends of its indented blocks and of
keys without a mark, stand where the indentation and the colons put them.
-/

namespace CriticalCss.Yaml

/-- A statement about a document that stands before it. -/
inductive Directive
  | version (major : Text)
  /-- Tags that begin with a handle begin with this text instead. -/
  | tag (handle replacement : Text)
  | other
  deriving DecidableEq, Repr

/-- A token. -/
inductive Token
  | directive (d : Directive)
  | documentStart
  | documentEnd
  | streamEnd
  | blockSequenceStart
  | blockMappingStart
  | blockEnd
  | flowSequenceStart
  | flowSequenceEnd
  | flowMappingStart
  | flowMappingEnd
  | flowEntry
  | blockEntry
  | key
  | value
  | alias (name : Text)
  | anchor (name : Text)
  /-- A tag; without a handle the suffix is the whole. -/
  | tag (handle : Option Text) (suffix : Text)
  /-- A scalar, and whether it is written without quotes or indicators. -/
  | scalar (text : Text) (plain : Bool)
  /-- The place from which the source cannot be read on. -/
  | broken (fault : Fault)
  deriving DecidableEq, Repr

end CriticalCss.Yaml
