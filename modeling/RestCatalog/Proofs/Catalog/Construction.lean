import RestCatalog.Proofs.Catalog.Templates
import RestCatalog.Proofs.OpenApi

/-!
# When a catalog is refused, and what it holds otherwise

Building a catalog goes through many steps that could end it: a method may be no verb or none
that resources handle, a resource may be left without a template, a template text may not be
read back, a chain may not be settled, a parameter may find no level.  Only the first two ever
happen.

* `blames_of_refused`: every refusal blames the method of an endpoint
  (`CatalogError.Blames`), so there is none if all methods are handled; and since a catalog has
  a resource for every call, a method that is not handled is always refused
  (`handled_of_ofEndpoints`).
* `setUpInFull_of_ofEndpoints`: in a catalog none of the other steps was passed over.
* `exists_divides`: nothing is lost on the way.  The resources divide the calls among them, one
  for each endpoint.

`construction` puts this together, and adds that the endpoints of a description are never
refused.
-/

namespace RestCatalog

/-! ## What is not passed over -/

theorem Resource.isSome_noteParam? (resource : Resource) (verb : Verb) {params : List Param}
    (place : Fin params.length) (additional : Bool) :
    (resource.noteParam? verb (.member place) additional).isSome := by
  obtain ⟨level, hlevel⟩ := resource.exists_paramLevel?_member place
  unfold noteParam?
  rw [hlevel]
  rfl

/-- The chain of a resolution is a new one that was settled. -/
theorem Resolution.exists_confirmation (resolution : Resolution) :
    ∃ confirmation ≠ Confirmation.failure,
      CreationChain.confirm { variant := .post, steps := resolution.chain.steps } confirmation =
        .ok resolution.chain := by
  unfold Resolution.chain CreationChain.confirm CreationChain.settle CreationChain.isFailed
  cases resolution.unresolved with
  | none => exact ⟨.complete, nofun, rfl⟩
  | some path => exact ⟨.incomplete path, nofun, rfl⟩

/-- The set-up of a resource has passed over nothing. -/
structure Resource.SetUpInFull (resource : Resource) : Prop where
  /-- Every parameter is entered, whatever is known by then. -/
  params : ∀ call ∈ resource.calls, ∀ (place : Fin call.params.length) (before : Resource),
    (before.noteParam? call.verb (.member place) false).isSome
  /-- The text of every template is read back. -/
  templates : ∀ entry ∈ resource.templates.entries,
    ∃ verbs, Template.parse entry.2.text = .ok verbs
  /-- The chain of the creation was a new one when it was settled. -/
  chain : ∃ chain, resource.creations.postChain? = some chain ∧
    ∃ confirmation ≠ Confirmation.failure,
      CreationChain.confirm { variant := .post, steps := chain.steps } confirmation = .ok chain

namespace Catalog

variable {config : Config} {endpoints : List Endpoint} {catalog : Catalog} {resource : Resource}

/-! ## What a catalog holds -/

/-- Every endpoint has its call on a resource, and resources only hold calls that they handle. -/
theorem handled_of_ofEndpoints (hbuilt : ofEndpoints endpoints config = .ok catalog) :
    ∀ endpoint ∈ endpoints, endpoint.Handled := by
  intro endpoint hendpoint
  obtain ⟨calls, hcalls, -, -⟩ := resources_of_ofEndpoints hbuilt
  obtain ⟨call, hcall, hof⟩ := exists_call_of_mem hcalls hendpoint
  rw [calls_eq_filterMap hcalls] at hcall
  obtain ⟨resource, hresource, holds⟩ :=
    exists_holdsCallsOf hbuilt (List.mem_map_of_mem (f := fun call => call.restPath.text) hcall)
  have hmem : call ∈ resource.calls := by
    rw [holds.calls_eq, List.mem_filter, decide_eq_true_eq]
    exact ⟨hcall, rfl⟩
  exact Endpoint.handled_iff.mpr
    ⟨call, hof, (setUp_of_ofEndpoints hbuilt hresource).handled call hmem⟩

/-- A catalog divides calls among its resources: none is lost and none is held twice. -/
structure Divides (catalog : Catalog) (calls : List Call) : Prop where
  perm : (catalog.resources.flatMap Resource.calls).Perm calls
  /-- The resources stand in the order in which their paths first appear. -/
  keys_eq : catalog.entries.keys = (calls.map fun call => call.restPath.text).eraseDups
  /-- Each holds the calls with its path text, in their order. -/
  calls_eq : ∀ entry ∈ catalog.entries.entries,
    entry.2.calls = calls.filter fun call => call.restPath.text = entry.1

theorem exists_divides (hbuilt : ofEndpoints endpoints config = .ok catalog) :
    ∃ calls, endpoints.map Call.ofEndpoint? = calls.map some ∧ catalog.Divides calls := by
  obtain ⟨calls, hcalls, hentries, -⟩ := entries_of_ofEndpoints hbuilt
  have hkeys : catalog.entries.keys = (calls.map fun call => call.restPath.text).eraseDups := by
    rw [hentries, keys_of_mapValues_drafts]
  have hheld : ∀ entry ∈ catalog.entries.entries,
      entry.2.calls = calls.filter fun call => call.restPath.text = entry.1 := by
    intro entry hentry
    rw [hentries] at hentry
    exact calls_eq_of_mem_entries config hentry
  have hlisted : catalog.resources.flatMap Resource.calls =
      catalog.entries.keys.flatMap fun key =>
        calls.filter fun call => call.restPath.text = key := by
    unfold resources OrderedMap.values OrderedMap.keys
    rw [List.flatMap_map, List.flatMap_map]
    exact List.flatMap_congr hheld
  refine ⟨calls, hcalls, ?_, hkeys, hheld⟩
  rw [hlisted, hkeys]
  refine perm_flatMap_filter (fun call : Call => call.restPath.text) (nodup_eraseDups _) ?_
  intro call hcall
  rw [List.mem_eraseDups]
  exact List.mem_map_of_mem hcall

theorem setUpInFull_of_ofEndpoints (hbuilt : ofEndpoints endpoints config = .ok catalog)
    (hresource : resource ∈ catalog.resources) : resource.SetUpInFull := by
  constructor
  case params => exact fun call _ place before => before.isSome_noteParam? call.verb place false
  case templates =>
    intro entry hentry
    obtain ⟨sized, hsized, hentries⟩ := exists_entries_templates hbuilt hresource
    rw [hentries] at hentry
    obtain ⟨verbs, hverbs, rfl⟩ := List.mem_map.mp hentry
    refine ⟨verbs, ?_⟩
    rw [(hsized _).1]
    exact Template.parse_format (Template.ne_nil_of_mem_order (List.mem_filter.mp hverbs).1)
  case chain =>
    exact ⟨_, postChain?_eq_resolveCreation hbuilt hresource, Resolution.exists_confirmation _⟩

/-! ## How it ends -/

/-- How the building of a catalog ends. -/
structure Construction (config : Config) (endpoints : List Endpoint) : Prop where
  /-- It is refused exactly for methods that resources do not handle. -/
  refused_iff : (∃ error, ofEndpoints endpoints config = .error error) ↔
    ∃ endpoint ∈ endpoints, ¬ endpoint.Handled
  /-- No other error comes up, in particular none for want of a template. -/
  blames : ∀ error, ofEndpoints endpoints config = .error error →
    ∃ endpoint ∈ endpoints, error.Blames endpoint
  /-- Otherwise every endpoint has its call, and the resources divide the calls among them. -/
  divides : ∀ catalog, ofEndpoints endpoints config = .ok catalog →
    ∃ calls, endpoints.map Call.ofEndpoint? = calls.map some ∧ catalog.Divides calls
  setUpInFull : ∀ catalog, ofEndpoints endpoints config = .ok catalog →
    ∀ resource ∈ catalog.resources, resource.SetUpInFull
  /-- The endpoints of a description are never refused. -/
  described : ∀ document, OpenApi.endpoints document = .ok endpoints →
    ∃ catalog, ofEndpoints endpoints config = .ok catalog

theorem construction (config : Config) (endpoints : List Endpoint) :
    Construction config endpoints := by
  constructor
  case refused_iff =>
    constructor
    · rintro ⟨error, hrefused⟩
      obtain ⟨endpoint, hendpoint, hblames⟩ := blames_of_refused hrefused
      exact ⟨endpoint, hendpoint, hblames.not_handled⟩
    · rintro ⟨endpoint, hendpoint, hunhandled⟩
      cases hbuilt : ofEndpoints endpoints config with
      | error error => exact ⟨error, rfl⟩
      | ok catalog => exact absurd (handled_of_ofEndpoints hbuilt endpoint hendpoint) hunhandled
  case blames => exact fun error => blames_of_refused
  case divides => exact fun catalog => exists_divides
  case setUpInFull => exact fun catalog hbuilt resource => setUpInFull_of_ofEndpoints hbuilt
  case described =>
    exact fun document hread => exists_of_handled config (OpenApi.handled_of_endpoints hread)

end Catalog

end RestCatalog
