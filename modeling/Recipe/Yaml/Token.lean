import Recipe.Yaml.Tag

namespace Recipe.Yaml

inductive Token
  | directive : Directive → Token
  | documentStart
  | documentEnd
  | streamEnd
  | blockSequence
  | blockMapping
  | blockEnd
  | flowSequence
  | flowSequenceEnd
  | flowMapping
  | flowMappingEnd
  | entry
  | comma
  | key
  | value
  | alias : String → Token
  | anchor : String → Token
  | tag : (handle suffix : String) → Token
  | scalar : (plain : Bool) → String → Token
  deriving DecidableEq

structure Placed where
  token : Token
  mark : Mark
  deriving DecidableEq

end Recipe.Yaml
