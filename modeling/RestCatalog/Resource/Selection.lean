import RestCatalog.Resource.Basic

/-!
# Selecting templates and calls

A template is selected among those that a condition admits, by chance or as the
first of the least visited ones, and its visits are counted.  Once the chain of
POST calls is known to be complete, its length is added, once, to the size of
every template that contains a POST.
-/

namespace RestCatalog

/-- The first of the least visited templates. -/
def leastVisited? : List Template → Option Template
  | [] => none
  | first :: rest =>
    match leastVisited? rest with
    | none => some first
    | some other => some (if other.visits < first.visits then other else first)

namespace Resource

variable (resource : Resource)

/-- The templates to select from: all, or the named ones. -/
def templatePool (chosen : Option (List String)) : Except CatalogError (List Template) :=
  match chosen with
  | none => .ok resource.templates.values
  | some names =>
    let unknown := names.filter fun name => !resource.templates.contains name
    if unknown.isEmpty then .ok (names.eraseDups.filterMap resource.templates.get?)
    else .error (.unknownTemplates resource.name unknown)

/-- Counts a visit of a template. -/
def visit (template : Template) : Resource × Template :=
  let visited := { template with visits := template.visits + 1 }
  ({ resource with templates := resource.templates.modify template.text fun _ => visited },
    visited)

/-- Selects one of the templates that a condition admits, if there is any. -/
def selectTemplate {σ : Type} [ChoiceSource σ] (admits : Template → Bool)
    (chosen : Option (List String)) (lessVisited : Bool) (chooser : Chooser σ) :
    Except CatalogError (Resource × Option Template) × Chooser σ :=
  match resource.templatePool chosen with
  | .error error => (.error error, chooser)
  | .ok pool =>
    let candidates := pool.filter admits
    let (selected, chooser) :=
      if candidates.isEmpty then (none, chooser)
      else if lessVisited then (leastVisited? candidates, chooser)
      else chooser.choose .templates candidates
    match selected with
    | none => (.ok (resource, none), chooser)
    | some template =>
      let (resource, template) := resource.visit template
      (.ok (resource, some template), chooser)

/-- By how much the chain of POST calls makes a template with a POST larger; none as long as
no complete chain is at hand. -/
def creationSize? : Option Nat :=
  match resource.creations.postChain? with
  | none => none
  | some chain =>
    if chain.steps.isEmpty || !chain.isComplete then none
    else some (chain.steps.length - if resource.inventory.post then 1 else 0)

/-- Adds the calls of the creation to the sizes that do not count them yet. -/
def updateTemplateSize : Resource :=
  match resource.creationSize? with
  | none => resource
  | some more =>
    { resource with
      templates := resource.templates.mapValues fun template =>
        if template.contains .post && !template.sizeAssured then
          { template with size := template.size + more, sizeAssured := true }
        else template }

/-- A call of the resource: the first with the verb, or any if there is none. -/
def sampleCall {σ : Type} [ChoiceSource σ] (verb : Option Verb) (chooser : Chooser σ) :
    Except CatalogError Call × Chooser σ :=
  match verb.bind resource.callWith? with
  | some call => (.ok call, chooser)
  | none =>
    match chooser.choose .calls resource.calls with
    | (some call, chooser) => (.ok call, chooser)
    | (none, chooser) => (.error .emptyChoice, chooser)

end Resource

end RestCatalog
