import RestCatalog.Catalog
import RestCatalog.Document.Value

/-!
# Reports

What is known about the resources of a catalog, as lines to read and as a document.
-/

namespace RestCatalog

open Document

namespace Value

def ofTexts (texts : List String) : Value := .list (texts.map Value.text)

def record (fields : List (String × Value)) : Value :=
  .map (fields.map fun field => (.text field.1, field.2))

end Value

/-- The names joined, or a dash if there are none. -/
def joinedOrDash (separator : String) (names : List String) : String :=
  if names.isEmpty then "-" else separator.intercalate names

namespace ResourceGroup

variable (group : ResourceGroup) (resource : Resource)

/-- The keys of the parameters that have to be bound. -/
def missingKeys : List String :=
  sortedSet ((resource.params.entries.filter fun entry => entry.2.missing).map (·.1))

/-- The report on a resource as a document. -/
def report : Value :=
  let inventory :=
    (Verb.handled.map Verb.text ++ ["POST_IN_ANCESTRY"]).zip resource.inventory.slots
  Value.record [
    ("path", .text resource.name),
    ("ancestors", Value.ofTexts ((group.ancestorsOf resource).map Resource.name)),
    ("verbs", Value.record (inventory.map fun slot => (slot.1, .bool slot.2))),
    ("independent", .bool resource.isIndependent),
    ("templates", Value.record (resource.templates.entries.map fun entry =>
      (entry.1, Value.record
        [("independent", .bool entry.2.independent), ("size", .int entry.2.size)]))),
    ("post_chain",
      match resource.creations.postChain? with
      | none => .null
      | some chain =>
        Value.record [("status", .text chain.status.text),
          ("actions", Value.ofTexts (chain.steps.map CreationStep.name))]),
    ("missing_params", Value.ofTexts (missingKeys resource)),
    ("tables", Value.ofTexts resource.tables.insertionPoints)]

/-- The report on a resource as lines to read. -/
def reportLines : List String :=
  ["", resource.name,
    "  ancestors: " ++ joinedOrDash ", " ((group.ancestorsOf resource).map Resource.name),
    "  templates: " ++ ", ".intercalate resource.templates.keys] ++
  match resource.creations.postChain? with
  | none => []
  | some chain =>
    ["  creation: " ++ chain.status.text ++ " " ++
      joinedOrDash " -> " (chain.steps.map CreationStep.name)]

end ResourceGroup

namespace Catalog

/-- The report on all resources as a document. -/
def report (catalog : Catalog) : Value :=
  Value.record [("resources", .list (catalog.resources.map catalog.resources.report))]

/-- The report on all resources as lines to read. -/
def reportLines (catalog : Catalog) : List String :=
  catalog.resources.flatMap catalog.resources.reportLines

end Catalog

/-- What is noted about a call of a sequence: the locations that it keeps and uses. -/
def Call.notes (call : Call) : List String :=
  (if call.savesLocation then ["saves location"] else []) ++
    match call.locationId with
    | some location => if location.isEmpty then [] else ["uses location of " ++ location]
    | none => []

/-- A call as a line of a numbered sequence. -/
def Call.line (call : Call) (number : Nat) : String :=
  "  " ++ toString number ++ ". " ++ call.verb.text ++ " " ++ call.path ++
    if call.notes.isEmpty then "" else "  (" ++ ", ".intercalate call.notes ++ ")"

end RestCatalog
