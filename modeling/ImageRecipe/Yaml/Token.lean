import ImageRecipe.Yaml.Property

/-!
The tokens of a YAML stream. Indentation has become brackets: a block collection stands between a
start token and an end token, and a key has its mark before it even if the stream shows only the
colon behind it.
-/
namespace ImageRecipe.Yaml

inductive Style where
  | plain
  | singleQuoted
  | doubleQuoted
  | literal
  | folded
deriving DecidableEq, Repr

inductive Token where
  | streamEnd
  | directive (directive : Directive)
  | documentStart
  | documentEnd
  | blockSequenceStart
  | blockMappingStart
  | blockEnd
  | flowSequenceStart
  | flowSequenceEnd
  | flowMappingStart
  | flowMappingEnd
  | blockEntry
  | flowEntry
  | key
  | value
  | reference (name : String)
  | anchor (name : String)
  | tag (name : TagName)
  | scalar (text : String) (style : Style)
deriving DecidableEq, Repr

structure Lexeme where
  token : Token
  start : Mark
  stop : Mark
deriving DecidableEq, Repr

end ImageRecipe.Yaml
