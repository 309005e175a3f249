import RestCatalog.Document.File
import RestCatalog.Validation.Records

/-!
# Configuration files

A configuration is a mapping in a text file; an empty file stands for the defaults.  How a text
is read as a value, what the root of a value is, and which values the fields of a
configuration take are given from outside (`Markup`, `FieldChecks`); `Config.load` is the
case of YAML.
-/

namespace RestCatalog

open Document

/-- The root of a value. -/
inductive Root (V : Type) where
  | empty
  | mapping (entries : Entries V)
  | other

/-- A way to write values as texts: what a text is read as, which may fail with a fault, and the
root of a value. -/
structure Markup (V F : Type) where
  read : String → Except F V
  root : V → Root V

/-- The root of a document. -/
def Document.Value.root : Value → Root Value
  | .null => .empty
  | .map fields => .mapping (Fields.entries fields)
  | _ => .other

/-- YAML, whose values are trees here: a text with an alias inside the node that it stands for is
refused. -/
def Markup.yaml : Markup Value Yaml.Fault where
  read := Yaml.parse
  root := Value.root

/-- Why a file is no configuration. -/
inductive ConfigError where
  | missing (file : String)
  | notMapping
  | rejected (file : String) (problems : List Problem)
deriving DecidableEq, Repr

def ConfigError.message : ConfigError → String
  | .missing file => "Config file not found: " ++ file
  | .notMapping => "Config root must be a YAML mapping"
  | .rejected file problems =>
    "Invalid config " ++ file ++ ": " ++ "; ".intercalate (problems.map Problem.text)

/-- Why a configuration cannot be loaded: its file is none, or cannot be read as values and
fields at all. -/
inductive LoadFailure (F : Type) where
  | refused (error : ConfigError)
  | notUtf8
  /-- The text is not read as a value. -/
  | unread (fault : F)
  /-- A key that is no text. -/
  | badKey
deriving DecidableEq, Repr

namespace Config

section Reading

variable {V F : Type}

/-- The configuration that the root of a file stands for. -/
def ofRoot (checks : FieldChecks V) (file : String) : Root V → Except (LoadFailure F) Config
  | .empty => .ok .standard
  | .mapping entries =>
    if entries.all fun entry => entry.1.isSome then
      match Config.ofEntries checks entries with
      | .valid config => .ok config
      | .rejected problems => .error (.refused (.rejected file problems))
    else .error .badKey
  | .other => .error (.refused .notMapping)

/-- The configuration in a file, if the file exists. -/
def loadWith (markup : Markup V F) (checks : FieldChecks V) (file : String)
    (content : Option ByteArray) : Except (LoadFailure F) Config :=
  match content with
  | none => .error (.refused (.missing file))
  | some content =>
    match decode? content with
    | none => .error .notUtf8
    | some text =>
      match markup.read text with
      | .error fault => .error (.unread fault)
      | .ok value => ofRoot checks file (markup.root value)

end Reading

/-- Why a configuration in YAML cannot be loaded. -/
abbrev LoadError := LoadFailure Yaml.Fault

@[match_pattern]
abbrev LoadError.notYaml : LoadError := .unread .malformed

/-- A scalar that has no value. -/
@[match_pattern]
abbrev LoadError.badScalar (message : String) : LoadError := .unread (.badScalar message)

def LoadError.message : LoadError → String
  | .refused error => error.message
  | .notUtf8 => "the file is not a UTF-8 text"
  | .notYaml => "the file is not YAML"
  | .badScalar message => message
  | .badKey => "a key of the configuration is not a text"

/-- The configuration in a YAML file, if the file exists. -/
def load (file : String) (content : Option ByteArray) : Except LoadError Config :=
  loadWith .yaml .standard file content

end Config

end RestCatalog
