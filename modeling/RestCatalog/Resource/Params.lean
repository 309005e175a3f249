import RestCatalog.Resource.Basic

/-!
# Parameters of a resource

Each parameter of a call belongs to a level of the path, and by that to a segment.
A path parameter belongs to the element with its name; where a name is repeated,
the parameters of that name take the elements one after the other.  What is
known about the parameters of a resource is kept under their keys.
-/

namespace RestCatalog

/-- A parameter that is looked up among others: one of them, or another one. -/
inductive ParamRef (params : List Param) where
  | member (place : Fin params.length)
  | foreign (param : Param)

namespace ParamRef

def param {params : List Param} : ParamRef params → Param
  | member place => params.get place
  | foreign param => param

/-- How many parameters of the same name stand before a member. -/
def rank? {params : List Param} : ParamRef params → Option Nat
  | member place =>
    some ((params.take place).countP fun other => other.name = (params.get place).name)
  | foreign _ => none

end ParamRef

namespace Resource

variable (resource : Resource) {params : List Param}

/-- The level of the path that a parameter belongs to.  There is none for a parameter of a
repeated name that is not among those it is looked up in. -/
def paramLevel? (ref : ParamRef params) : Option Nat :=
  if !ref.param.isPath then some resource.path.levels
  else
    match resource.tokens.parametersNamed ref.param.name with
    | [] => some resource.path.levels
    | [token] => some token.level
    | first :: others =>
      ref.rank?.map fun rank =>
        ((first :: others).getD (min rank others.length) first).level

/-- The flat segment that a parameter belongs to. -/
def paramSegment? (ref : ParamRef params) : Option String :=
  (resource.paramLevel? ref).map fun level => resource.tokens.segmentAt level true

/-- The key of a parameter. -/
def paramKey? (ref : ParamRef params) : Option String :=
  (resource.paramSegment? ref).map ref.param.key

/-- What is known about a parameter that was not met before. -/
def newParamInfo (param : Param) (level : Nat) : ParamInfo :=
  let segment := resource.tokens.segmentAt level true
  { name := param.name
    key := param.key segment
    segment
    segmentLevel := (resource.segments true).findIdx? (· = segment)
    param
    missing := param.isPath && (!resource.inventory.post || level < resource.path.levels - 1) }

/-- Enters a parameter of a call with a verb, and tells what is known about it then. -/
def noteParam? (verb : Verb) (ref : ParamRef params) (additional : Bool) :
    Option (Resource × ParamInfo) :=
  (resource.paramLevel? ref).map fun level =>
    let new := resource.newParamInfo ref.param level
    let known := (resource.params.get? new.key).getD new
    let info : ParamInfo :=
      { known with
        verbs := addNew known.verbs verb
        isAdditional := additional || known.isAdditional }
    ({ resource with params := resource.params.insert new.key info }, info)

/-- Enters all parameters of a call. -/
def noteCall (call : Call) : Resource :=
  (List.finRange call.params.length).foldl
    (fun resource place =>
      match resource.noteParam? call.verb (ParamRef.member place) false with
      | some (resource, _) => resource
      | none => resource)
    resource

/-- Starts over with the parameters of all calls; none are known without tokens. -/
def initParams : Resource :=
  let cleared := { resource with params := {} }
  if resource.tokens.isEmpty then cleared else resource.calls.foldl noteCall cleared

/-- The own call with the name of another one. -/
def callNamed? (name : String) : Option Call :=
  resource.calls.find? fun call => call.name = name

/-- The own call that a given one stands for. -/
def ownCall (call : Call) : Except CatalogError Call :=
  match resource.callNamed? call.name with
  | some own => .ok own
  | none => .error (.foreignCall call.name resource.name)

/-- Whether a call has another number of parameters than the own one of its name. -/
def paramsChanged (call : Call) : Except CatalogError Bool :=
  (resource.ownCall call).map fun own => call.params.length != own.params.length

/-- The parameters of a call that are not known yet. -/
def unknownParams (call : Call) : List (Fin call.params.length) :=
  (List.finRange call.params.length).filter fun place =>
    match resource.paramKey? (ParamRef.member place) with
    | some key => !resource.params.contains key
    | none => false

/-- Enters the parameters of a call that are not known yet, and tells which they are. -/
def noteAdditional (call : Call) :
    Except CatalogError (Resource × Option (OrderedMap String ParamInfo)) :=
  (resource.ownCall call).map fun _ =>
    let unknown := resource.unknownParams call
    if unknown.isEmpty then (resource, none)
    else
      let (resource, added) := unknown.foldl
        (fun (state : Resource × OrderedMap String ParamInfo) place =>
          match state.1.noteParam? call.verb (ParamRef.member place) true with
          | some (resource, info) => (resource, state.2.insert info.key info)
          | none => state)
        (resource, {})
      (resource, some added)

/-- Enters one parameter of a call, and tells what is known about it then. -/
def noteAdditionalParam (verb : Verb) (ref : ParamRef params) :
    Except CatalogError (Resource × ParamInfo) :=
  match resource.noteParam? verb ref true with
  | some result => .ok result
  | none => .error .unlistedParam

/-- The parameters that a template with a given first verb has to bind. -/
def boundParams (lead : Verb) : List ParamInfo :=
  let infos := resource.params.values
  match lead with
  | .post =>
    let missing := infos.filter (·.missing)
    if missing.isEmpty then infos else missing
  | .put | .patch =>
    infos.filter fun info => info.verbs.contains lead && (info.isPath || info.refersToId)
  | .get | .delete => infos.filter fun info => info.verbs.contains lead
  | _ => []

/-- The parameters that a template text has to bind. -/
def missingParams (template : String) : Except CatalogError (List ParamInfo) :=
  match Template.parse template with
  | .error part => .error (.unknownVerb part)
  | .ok verbs => .ok ((verbs.head?.map resource.boundParams).getD [])

end Resource

end RestCatalog
