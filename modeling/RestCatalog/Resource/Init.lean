import RestCatalog.Resource.Closest
import RestCatalog.Resource.Params

/-!
# Setting a resource up

A resource is set up once its calls and ancestors are known: its verbs are
entered, the templates that make sense are listed, the chain of POST calls that
creates an instance is resolved, and the parameters are collected.  A resource
that refuses keeps what was entered up to then.
-/

namespace RestCatalog

/-- The steps of a chain that is being resolved, and how it was settled. -/
structure Resolution where
  steps : List Call
  /-- The path at which no creator was found; none if nothing is left to create. -/
  unresolved : Option String
deriving DecidableEq, Repr

namespace Resolution

/-- The chain of a resolution. -/
def chain (resolution : Resolution) : CreationChain :=
  { variant := .post
    steps := resolution.steps.map CreationStep.call
    status := if resolution.unresolved.isSome then .incomplete else .complete
    unresolvedPath := resolution.unresolved }

end Resolution

namespace ResourceGroup

variable (group : ResourceGroup)

/-- Puts the creators of a call in front of it, from the innermost one outwards, until one
needs no other resource or none is found, in at most `fuel` steps. -/
def resolveCreators (resource : Resource) :
    (fuel : Nat) → (first : Call) → (later : List Call) → Resolution
  | 0, first, later => ⟨first :: later, some first.path⟩
  | fuel + 1, first, later =>
    if !first.restPath.needsDependency then ⟨first :: later, none⟩
    else
      match group.closestAbove? resource first.restPath [.post] with
      | none => ⟨first :: later, some first.path⟩
      | some creator => resolveCreators resource fuel creator (first :: later)

/-- The POST that creates an instance of a resource: its own one, or the closest one above if
it has none.  Several own ones leave it open. -/
def creatorOf? (resource : Resource) : Option Call :=
  match resource.posts with
  | [] => group.closestAbove? resource resource.path [.post]
  | [post] => some post
  | _ => none

/-- How an instance of a resource is created by POST calls. -/
def resolveCreation (resource : Resource) : Resolution :=
  match group.creatorOf? resource with
  | some post => group.resolveCreators resource (resource.ancestors.length + 1) post []
  | none => ⟨[], if resource.path.hasVariables then some resource.name else none⟩

/-- Enters the verbs of calls; the first verb that cannot be handled ends it. -/
def enterVerbs (inventory : VerbInventory) : List Call → VerbInventory × Option Verb
  | [] => (inventory, none)
  | call :: rest =>
    match inventory.add? call.verb with
    | some inventory => enterVerbs inventory rest
    | none => (inventory, some call.verb)

/-- Enters the verbs and lists the templates. -/
def initVerbs (resource : Resource) (withRows : Bool) : Resource × Option CatalogError :=
  match enterVerbs resource.inventory resource.calls with
  | (inventory, some verb) =>
    ({ resource with inventory }, some (.unhandledVerb verb resource.name))
  | (inventory, none) =>
    let inventory := { inventory with
      postInAncestry :=
        inventory.post || (group.ancestorCalls resource).any fun call => call.verb = .post }
    let templates := inventory.sampleSpace resource.path.hasVariables withRows
    ({ resource with inventory, templates },
      if templates.isEmpty then some (.noTemplate resource.name) else none)

/-- Registers the chain of POST calls. -/
def initCreations (resource : Resource) : Resource :=
  { resource with
    creations := (resource.creations.register (group.resolveCreation resource).chain).1 }

/-- Sets a resource up. -/
def init (resource : Resource) (withRows : Bool) : Resource × Option CatalogError :=
  match group.initVerbs resource withRows with
  | (resource, some error) => (resource, some error)
  | (resource, none) =>
    let resource := group.initCreations resource
    (if resource.mode.usesTokens then resource.initParams else resource, none)

/-- A resource that knows its ancestors in a group. -/
def withAncestors (resource : Resource) : Resource :=
  { resource with ancestors := group.ancestorPlaces resource.path }

end ResourceGroup

end RestCatalog
