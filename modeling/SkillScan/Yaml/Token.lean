import SkillScan.Yaml.Error

/-!
# Tokens

What a YAML document consists of: the marks that open, separate and close documents and collections, the
properties of nodes and the scalars. Where indentation alone begins or ends a collection, a token says so.
-/

namespace SkillScan.Yaml

/-- A line that tells how a document is to be read. -/
inductive Directive where
  | version (major minor : Nat)
  /-- A handle and the beginning of the tags that it stands for. -/
  | handle (name meaning : String)
  /-- A directive that has no effect. -/
  | unknown

/-- A part of a text. -/
inductive Token where
  | directive (directive : Directive)
  | documentStart
  | documentEnd
  | blockSequenceStart
  | blockMappingStart
  | blockEnd
  | flowSequenceStart
  | flowSequenceEnd
  | flowMappingStart
  | flowMappingEnd
  /-- The dash before an item. -/
  | blockEntry
  /-- The comma between two items. -/
  | flowEntry
  | key
  | value
  | alias (name : String)
  | anchor (name : String)
  /-- A tag, written with a handle or in full. -/
  | tag (handle : Option String) (suffix : String)
  | scalar (text : String) (plain : Bool)
  | textEnd
  /-- The place behind which the text cannot be read on. -/
  | broken (error : Error)

end SkillScan.Yaml
