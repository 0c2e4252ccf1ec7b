set_option autoImplicit false

/-!
The tokens of YAML texts. Indentation is told by tokens of its own, so that the grammar of tokens
needs no columns.
-/
namespace ClusterConf.Yaml

inductive ScalarStyle where
  | plain
  | singleQuoted
  | doubleQuoted
  | literal
  | folded
  deriving DecidableEq

/-- A piece of a text with a meaning. -/
inductive Token where
  | streamEnd
  | versionDirective (major minor : Nat)
  | tagDirective (handle start : String)
  | documentStart
  | documentEnd
  | blockSequenceStart
  | blockMappingStart
  /-- Ends the innermost block sequence or mapping that had a start. -/
  | blockEnd
  | flowSequenceStart
  | flowSequenceEnd
  | flowMappingStart
  | flowMappingEnd
  | blockEntry
  | flowEntry
  | key
  | value
  | alias (name : String)
  | anchor (name : String)
  /-- A tag, cut into its handle and the rest; a tag in full has an empty handle. -/
  | tag (handle rest : String)
  | scalar (style : ScalarStyle) (text : String)
  deriving DecidableEq

end ClusterConf.Yaml
