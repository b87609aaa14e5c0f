import SchemaPlan.Yaml.Letter

namespace SchemaPlan.Yaml

inductive Directive
  | version (major minor : Nat)
  | tag (handle lead : String)
  | other
  deriving DecidableEq

inductive Token
  | streamEnd
  | directive (directive : Directive)
  | documentStart
  | documentEnd
  | blockSequenceStart
  | blockMappingStart
  | blockEnd
  | flowSequenceStart
  | flowSequenceEnd
  | flowMappingStart
  | flowMappingEnd
  | blockEntry
  | flowEntry
  | key
  | value
  | alias (name : String)
  | anchor (name : String)
  /-- A tag without handle is written out in full. -/
  | tag (handle : Option String) (suffix : String)
  | scalar (letters : List Letter) (plain : Bool)
  deriving DecidableEq

end SchemaPlan.Yaml
