import RestCatalog.Call.Basic
import RestCatalog.Config
import RestCatalog.Validation.Basic

/-!
# Records from fields

How parameters, endpoints, calls, insertions and configurations are read from the
fields of a mapping.  Fields that a record does not have are ignored.  A configuration is
read from values of any kind, given the checks of its kinds of fields.
-/

namespace RestCatalog

open Document

def Param.ofFields (fields : Fields) : Checked Param :=
  Param.mk <$> fields.required "name" Check.text
    <*> fields.required "location" Check.text
    <*> fields.optional "required" Check.bool false
    <*> fields.optional "param_type" Check.text "string"
    <*> fields.optional "description" Check.text ""
    <*> fields.optional "ref_type" (Check.orNull Check.text) none

/-- A parameter inside a list. -/
def Param.ofValue : Value → Checked Param
  | .map fields => Param.ofFields fields
  | _ => .reject "Input should be a valid dictionary or instance of Param"

def Endpoint.ofFields (fields : Fields) : Checked Endpoint :=
  Endpoint.mk <$> fields.required "method" Check.text
    <*> fields.required "path" Check.text
    <*> fields.optional "summary" Check.text ""
    <*> fields.optional "parameters" (Check.list Param.ofValue) []
    <*> fields.optional "tags" (Check.list Check.text) []

def Verb.ofValue : Value → Checked Verb :=
  Check.oneOf Verb.ofText?
    ("Input should be 'GET', 'POST', 'PUT', 'PATCH', 'DELETE', 'OPTIONS', 'HEAD' " ++
      "or 'TRACE'")

def Call.ofFields (fields : Fields) : Checked Call :=
  Call.mk <$> fields.required "verb" Verb.ofValue
    <*> fields.required "path" Check.text
    <*> fields.optional "parameters" (Check.list Param.ofValue) []
    <*> fields.optional "save_location" Check.bool false
    <*> fields.optional "location_id" (Check.orNull Check.text) none

/-- The columns of an insertion are only checked to be a mapping. -/
def Insertion.checkColumns : Value → Checked Unit
  | .map _ => .valid ()
  | _ => .reject "Input should be a valid dictionary"

def Insertion.ofFields (fields : Fields) : Checked Insertion :=
  (fun table _ => Insertion.mk table) <$> fields.required "table" Check.text
    <*> fields.optional "columns" Insertion.checkColumns ()

def InitMode.ofValue : Value → Checked InitMode :=
  Check.oneOf InitMode.ofText?
    ("Input should be 'none', 'with_token', 'with_derived_dependency' " ++
      "or 'with_dependency'")

/-- The checks of the kinds of fields that a configuration has, for one kind of values. -/
structure FieldChecks (V : Type) where
  mode : V → Checked InitMode
  truth : V → Checked Bool
  atLeast : (least : Nat) → V → Checked { n : Nat // least ≤ n }
  integerOrNull : V → Checked (Option Int)
  texts : V → Checked (List String)

/-- The checks of the values of a document.  None accepts a `Value.foreign`. -/
def FieldChecks.standard : FieldChecks Value where
  mode := InitMode.ofValue
  truth := Check.bool
  atLeast := Check.atLeast
  integerOrNull := Check.orNull Check.int
  texts := Check.list Check.text

def Config.ofEntries {V : Type} (checks : FieldChecks V) (entries : Entries V) :
    Checked Config :=
  (fun initMode withRows size seed chooseLessVisited tables =>
      { initMode, withRows, maxTestSize := size.val, maxTestSize_pos := size.property, seed,
        chooseLessVisited, tables : Config }) <$>
    entries.optional "init_mode" checks.mode .withToken
    <*> entries.optional "with_db" checks.truth false
    <*> entries.optional "max_test_size" (checks.atLeast 1) ⟨10, by decide⟩
    <*> entries.optional "seed" checks.integerOrNull none
    <*> entries.optional "choose_less_visit" checks.truth true
    <*> entries.optional "tables" checks.texts []

def Config.ofFields (fields : Fields) : Checked Config :=
  Config.ofEntries .standard fields.entries

end RestCatalog
