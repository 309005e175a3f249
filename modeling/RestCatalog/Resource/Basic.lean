import RestCatalog.Choice.Basic
import RestCatalog.Creation.Store
import RestCatalog.InitMode
import RestCatalog.Path.Segment
import RestCatalog.Resource.Error
import RestCatalog.Table.Relation
import RestCatalog.Template.SampleSpace

/-!
# Resources

A resource holds all calls on one path, with what is known about creating an
instance of it: the verbs, the templates, the creation chains, the parameters and
the tables.  Resources live in a group, a list in which each is known by its
place; the ancestors of a resource are places in its group, closest first.
-/

namespace RestCatalog

/-- What a resource knows about one parameter. -/
structure ParamInfo where
  name : String
  key : String
  /-- The flat segment that the parameter belongs to. -/
  segment : String
  /-- The place of that segment among those of the path. -/
  segmentLevel : Option Nat
  param : Param
  /-- Whether its value has to come from an existing instance instead of being made up. -/
  missing : Bool
  /-- The verbs of the calls that take the parameter, in order of appearance. -/
  verbs : List Verb := []
  /-- Whether it was met after the resource was set up. -/
  isAdditional : Bool := false
deriving DecidableEq, Repr

namespace ParamInfo

def isPath (info : ParamInfo) : Bool := info.param.isPath

/-- Whether the name speaks of an identifier. -/
def refersToId (info : ParamInfo) : Bool :=
  Text.occursIn ['i', 'd'] (Text.lower info.name).toList

end ParamInfo

structure Resource where
  path : Path
  calls : List Call
  mode : InitMode := .withToken
  /-- The places of the ancestors in the group, closest first. -/
  ancestors : List Nat := []
  inventory : VerbInventory := {}
  templates : Templates := {}
  creations : CreationStore := {}
  params : OrderedMap String ParamInfo := {}
  tables : TableRelation := {}

namespace Resource

instance : Inhabited Resource := ⟨{ path := default, calls := [] }⟩

def name (resource : Resource) : String := resource.path.text

/-- The tokens of the path, none in a mode that does not read them. -/
def tokens (resource : Resource) : TokenMap :=
  if resource.mode.usesTokens then TokenMap.ofPath resource.path resource.mode.splitsWords else {}

/-- The segments of the path, flat or raw. -/
def segments (resource : Resource) (flat : Bool) : List String :=
  resource.tokens.segments resource.path flat

/-- The POST calls of a resource. -/
def posts (resource : Resource) : List Call :=
  resource.calls.filter fun call => call.verb = .post

/-- The first call with a verb. -/
def callWith? (resource : Resource) (verb : Verb) : Option Call :=
  resource.calls.find? fun call => call.verb = verb

/-- Only templates that need nothing else, and no parameter to prepare rows for. -/
def isIndependent (resource : Resource) : Bool :=
  (resource.templates.values.all fun template => template.independent) &&
    ((!resource.creations.chains.values.any CreationChain.isComplete) ||
      resource.tables.forParams.isEmpty)

/-- Whether a POST, here or in the ancestry, can create the resource. -/
def hasPostCreation (resource : Resource) : Bool :=
  (resource.creations.chains.values.any fun chain =>
      chain.variant = .post && !chain.steps.isEmpty) ||
    resource.inventory.post

/-- How many templates need another resource. -/
def dependentTemplates (resource : Resource) : Nat :=
  (resource.templates.values.filter fun template => !template.independent).length

/-- The schemas that bodies refer to. -/
def refTypes (resource : Resource) : List String :=
  sortedSet (resource.params.values.filterMap fun info =>
    if info.param.isBody then info.param.refType.filter fun name => !name.isEmpty else none)

end Resource

/-- Resources by their places. -/
abbrev ResourceGroup := List Resource

namespace ResourceGroup

/-- The ancestors of a resource, closest first. -/
def ancestorsOf (group : ResourceGroup) (resource : Resource) : List Resource :=
  resource.ancestors.filterMap fun place => group[place]?

/-- The calls of all ancestors, closest first. -/
def ancestorCalls (group : ResourceGroup) (resource : Resource) : List Call :=
  (group.ancestorsOf resource).flatMap Resource.calls

/-- The resource itself or the closest of its ancestors with a path. -/
def sameOrAncestor? (group : ResourceGroup) (resource : Resource) (path : Path) :
    Option Resource :=
  if resource.path = path then some resource
  else (group.ancestorsOf resource).find? fun ancestor => ancestor.path = path

/-- The places of all resources whose path is a strict initial part of a path, closest
first. -/
def ancestorPlaces (group : ResourceGroup) (path : Path) : List Nat :=
  let found := group.zipIdx.filter fun entry => entry.1.path.isAncestor path
  (found.mergeSort fun a b => decide (b.1.path.levels ≤ a.1.path.levels)).map (·.2)

end ResourceGroup

end RestCatalog
