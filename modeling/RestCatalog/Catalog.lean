import RestCatalog.Config
import RestCatalog.Resource.Init
import RestCatalog.Resource.Preparation
import RestCatalog.Resource.Selection
import RestCatalog.Resource.Tables

/-!
# Catalogs

A catalog holds one resource for each distinct path of its calls, in order of
first appearance.  It is built in three passes: the resources, then their
ancestors, then their set-up.  Calls are looked up by a verb and a path.
-/

namespace RestCatalog

open Text

structure Catalog where
  config : Config := .standard
  /-- The resources, each under the path text that its calls share. -/
  entries : OrderedMap String Resource := {}

namespace Catalog

instance : Inhabited Catalog := ⟨{}⟩

def resources (catalog : Catalog) : ResourceGroup := catalog.entries.values

/-! ## Building -/

/-- The resources of calls, not set up yet. -/
def group (mode : InitMode) (calls : List Call) : OrderedMap String Resource :=
  ⟨(OrderedMap.groupBy (fun call : Call => call.restPath.text) calls).entries.map fun entry =>
    (entry.1, { path := Path.ofText entry.1, calls := entry.2, mode })⟩

/-- Sets up one resource of a group with a configuration. -/
def initResource (config : Config) (group : ResourceGroup) (resource : Resource) :
    Resource × Option CatalogError :=
  match group.init resource config.withRows with
  | (resource, some error) => (resource, some error)
  | (resource, none) =>
    let resource := if config.tables.isEmpty then resource else resource.deriveTables config.tables
    (resource.updateTemplateSize, none)

/-- Sets up resources one after the other; the first that refuses ends it. -/
def initAll (config : Config) (group : ResourceGroup) :
    List (String × Resource) → List (String × Resource) × Option CatalogError
  | [] => ([], none)
  | (key, resource) :: rest =>
    match initResource config group resource with
    | (resource, some error) => ((key, resource) :: rest, some error)
    | (resource, none) =>
      let (rest, error) := initAll config group rest
      ((key, resource) :: rest, error)

/-- The catalog of calls.  If a resource refuses, the resources stay as they were then. -/
def build (config : Config) (calls : List Call) : Catalog × Option CatalogError :=
  let entries := group config.initMode calls
  let entries := entries.mapValues (ResourceGroup.withAncestors entries.values)
  let (ready, error) := initAll config entries.values entries.entries
  ({ config, entries := ⟨ready⟩ }, error)

/-- The calls of endpoints; the first method that is no verb is refused. -/
def callsOf (endpoints : List Endpoint) : Except CatalogError (List Call) :=
  endpoints.mapM fun endpoint =>
    match Call.ofEndpoint? endpoint with
    | some call => .ok call
    | none => .error (.unknownVerb (upper endpoint.method))

/-- The catalog of endpoints. -/
def ofEndpoints (endpoints : List Endpoint) (config : Config) : Except CatalogError Catalog :=
  match callsOf endpoints with
  | .error error => .error error
  | .ok calls =>
    match build config calls with
    | (catalog, none) => .ok catalog
    | (_, some error) => .error error

/-! ## Looking up -/

/-- The place of the resource at a path. -/
def placeOf? (catalog : Catalog) (path : String) : Option Nat :=
  catalog.entries.keys.findIdx? (· = (Path.ofText path).text)

/-- The resource at a path. -/
def resourceAt? (catalog : Catalog) (path : String) : Option Resource :=
  catalog.entries.get? (Path.ofText path).text

/-- The place of the resource that a call belongs to. -/
def placeFor? (catalog : Catalog) (call : Call) : Option Nat :=
  catalog.placeOf? call.restPath.text

/-- Splits a name at its first blank, or at its first colon if it has no blank, and trims
the parts. -/
def splitName (name : String) : String × String :=
  let text := stripChars isBlank name.toList
  let cut := if text.contains ' ' then ' ' else ':'
  let path := (text.dropWhile (· != cut)).drop 1
  (upper (trim (String.ofList (text.takeWhile (· != cut)))), trim (String.ofList path))

/-- The place of a resource and the place of the first of its calls with a name
`VERB /path` or `VERB:/path`. -/
def locateCall (catalog : Catalog) (name : String) : Except CatalogError (Nat × Nat) :=
  let (verb, path) := splitName name
  match catalog.placeOf? path with
  | none => .error (.unknownCall name)
  | some place =>
    match Verb.ofText? verb with
    | none => .error (.unknownVerb verb)
    | some verb =>
      match (catalog.resources[place]?).bind fun resource =>
          resource.calls.findIdx? fun call => call.verb = verb with
      | some index => .ok (place, index)
      | none => .error (.unknownCall name)

/-- The first call with a name. -/
def findCall (catalog : Catalog) (name : String) : Except CatalogError Call :=
  match catalog.locateCall name with
  | .error error => .error error
  | .ok (place, index) =>
    match (catalog.resources[place]?).bind fun resource => resource.calls[index]? with
    | some call => .ok call
    | none => .error (.unknownCall name)

/-! ## Sampling -/

variable {σ : Type} [ChoiceSource σ]

/-- Changes the resource at a place. -/
def modifyAt (catalog : Catalog) (place : Nat) (change : Resource → Resource) : Catalog :=
  { catalog with
    entries := ⟨catalog.entries.entries.modify place fun entry => (entry.1, change entry.2)⟩ }

/-- The sequence that prepares and makes a call, with a limit of its own if it is not zero. -/
def sampleCalls (catalog : Catalog) (name : String) (limit : Option Int) (chooser : Chooser σ) :
    Except CatalogError (PreparationStatus × List Call) × Chooser σ :=
  match catalog.findCall name with
  | .error error => (.error error, chooser)
  | .ok target =>
    match catalog.resourceAt? target.restPath.text with
    | none => (.error (.homelessCall target.name), chooser)
    | some resource =>
      let limit := match limit with
        | none => (catalog.config.maxTestSize : Int)
        | some limit => if limit = 0 then (catalog.config.maxTestSize : Int) else limit
      let (prepared, chooser) :=
        catalog.resources.prepare resource (some limit) 1 target chooser
      (.ok (prepared.status, prepared.inserted ++ [prepared.target]), chooser)

/-- Selects a template of the resource at a path. -/
def selectTemplate (catalog : Catalog) (path : String) (admits : Template → Bool)
    (chooser : Chooser σ) :
    Except CatalogError (Catalog × Option Template) × Chooser σ :=
  match catalog.placeOf? path with
  | none => (.error (.unknownResource path), chooser)
  | some place =>
    match catalog.resources[place]? with
    | none => (.error (.unknownResource path), chooser)
    | some resource =>
      match resource.selectTemplate admits none catalog.config.chooseLessVisited chooser with
      | (.error error, chooser) => (.error error, chooser)
      | (.ok (resource, selected), chooser) =>
        (.ok (catalog.modifyAt place fun _ => resource, selected), chooser)

end Catalog

end RestCatalog
