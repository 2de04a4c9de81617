import KubeSchema.Yaml.Tag

/-!
# Tokens of YAML text

The tokens spell out the structure that indentation gives, so that what follows can do without columns.
-/

namespace KubeSchema.Yaml

/-- Whether a scalar stands without quotes and block indicators. -/
inductive ScalarStyle
  | plain | other
  deriving DecidableEq, Repr

/-- A token. -/
inductive Token
  /-- The version that a document is written in. -/
  | version (major minor : Nat)
  /-- What a tag handle stands for. -/
  | handle (name address : List Char)
  | documentStart | documentEnd
  | blockSequenceStart | blockMappingStart | blockEnd
  | flowSequenceStart | flowSequenceEnd | flowMappingStart | flowMappingEnd
  | blockEntry | flowEntry | key | value
  /-- A node under another name: the one that the anchor was given to. -/
  | reference (anchor : List Char)
  | anchor (name : List Char)
  | tag (name : TagName)
  | scalar (style : ScalarStyle) (text : List Char)
  | streamEnd
  deriving DecidableEq, Repr

end KubeSchema.Yaml
