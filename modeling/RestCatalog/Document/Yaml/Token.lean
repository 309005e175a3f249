import RestCatalog.Document.Yaml.Source

/-!
# YAML tokens
-/

namespace RestCatalog.Document.Yaml

/-- What a directive line declares. -/
inductive Directive where
  | version (major : Nat)
  | tagHandle (handle expansion : String)
  | other
deriving DecidableEq, Repr

/-- A token.  Indentation shows as the start and end of block collections. -/
inductive Token where
  | directive (directive : Directive)
  | documentStart
  | documentEnd
  | blockSequenceStart
  | blockMappingStart
  | blockEnd
  | flowSequenceStart
  | flowSequenceEnd
  | flowMappingStart
  | flowMappingEnd
  | blockEntry
  | flowEntry
  | key
  | value
  | alias (name : String)
  | anchor (name : String)
  | tag (handle : Option String) (suffix : String)
  | scalar (text : String) (isPlain : Bool)
  | streamEnd
deriving DecidableEq, Repr

end RestCatalog.Document.Yaml
