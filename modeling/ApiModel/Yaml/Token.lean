import ApiModel.Yaml.Tag

/-!
# Tokens of YAML

A token is an indicator, a directive, a property of a node or a scalar. The starts and ends of block
collections, which the text shows by indentation alone, are tokens too.
-/

namespace ApiModel.Yaml

inductive Token
  | versionDirective (major minor : Nat)
  | tagDirective (handle : String) (stem : Tag)
  | documentStart
  | documentEnd
  | blockSequenceStart
  | blockMappingStart
  | blockEnd
  | flowSequenceStart
  | flowSequenceEnd
  | flowMappingStart
  | flowMappingEnd
  | blockEntry
  | flowEntry
  | key
  | value
  | alias (name : String)
  | anchor (name : String)
  | tag (handle : String) (suffix : Tag)
  | scalar (text : String) (plain : Bool)
deriving DecidableEq

end ApiModel.Yaml
