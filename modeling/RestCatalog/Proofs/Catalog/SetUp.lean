import Mathlib.Data.Option.Basic
import RestCatalog.Proofs.Catalog.Build
import RestCatalog.Proofs.Resource.SetUp

/-!
# What the set-up of a catalog leaves

Every resource of a catalog was set up when it was new, so its inventory and its templates
follow from the calls on its path and from its ancestors (`setUp_of_ofEndpoints`), and the
calls on its path are those of the endpoints (`HoldsCallsOf`).

Nothing but the method of an endpoint is ever refused: every error blames one
(`blames_of_refused`), so handled methods are all that a catalog needs (`exists_of_handled`).
-/

namespace RestCatalog

/-- The method is one that resources handle, letter case apart. -/
def Endpoint.Handled (endpoint : Endpoint) : Prop :=
  Text.upper endpoint.method ∈ Verb.handled.map Verb.text

instance (endpoint : Endpoint) : Decidable endpoint.Handled := by
  unfold Endpoint.Handled
  infer_instance

theorem Call.verb_text_of_ofEndpoint? {endpoint : Endpoint} {call : Call}
    (hcall : Call.ofEndpoint? endpoint = some call) :
    call.verb.text = Text.upper endpoint.method := by
  unfold Call.ofEndpoint? at hcall
  obtain ⟨verb, htext, rfl⟩ := Option.map_eq_some_iff.mp hcall
  exact Verb.ofText?_eq_some_iff.mp htext

/-- A method is handled if the call that it makes is. -/
theorem Endpoint.handled_iff {endpoint : Endpoint} :
    endpoint.Handled ↔
      ∃ call, Call.ofEndpoint? endpoint = some call ∧ call.verb ∈ Verb.handled := by
  constructor
  · intro handled
    obtain ⟨verb, hverb, htext⟩ := List.mem_map.mp handled
    refine ⟨{ verb, path := endpoint.path, params := endpoint.params }, ?_, hverb⟩
    unfold Call.ofEndpoint?
    rw [← htext, Verb.ofText?_text, Option.map_some]
  · rintro ⟨call, hcall, hverb⟩
    exact List.mem_map.mpr ⟨call.verb, hverb, Call.verb_text_of_ofEndpoint? hcall⟩

/-- An error that blames the method of an endpoint: it is no verb, or it is a verb that
resources do not handle.  In the second case the error names the path of the resource. -/
inductive CatalogError.Blames (endpoint : Endpoint) : CatalogError → Prop where
  | unknown (hunknown : Verb.ofText? (Text.upper endpoint.method) = none) :
      CatalogError.Blames endpoint (.unknownVerb (Text.upper endpoint.method))
  | unhandled (verb : Verb) (htext : verb.text = Text.upper endpoint.method)
      (hunhandled : verb ∉ Verb.handled) :
      CatalogError.Blames endpoint
        (.unhandledVerb verb (Path.ofText (Path.ofText endpoint.path).text).text)

theorem CatalogError.Blames.not_handled {endpoint : Endpoint} {error : CatalogError}
    (blames : error.Blames endpoint) : ¬ endpoint.Handled := by
  intro handled
  obtain ⟨verb, hverb, htext⟩ := List.mem_map.mp handled
  cases blames with
  | unknown hunknown =>
      rw [← htext, Verb.ofText?_text] at hunknown
      cases hunknown
  | unhandled other hother hunhandled =>
      -- a text is that of one verb only
      have hsame : some other = some verb := by
        rw [← Verb.ofText?_text other, ← Verb.ofText?_text verb, hother, htext]
      exact hunhandled (Option.some.inj hsame ▸ hverb)

/-- A resource for those of the calls that have a path text. -/
structure Resource.HoldsCallsOf (resource : Resource) (calls : List Call) (key : String) :
    Prop where
  path_eq : resource.path = Path.ofText key
  calls_eq : resource.calls = calls.filter fun call => call.restPath.text = key

theorem Resource.HoldsCallsOf.of_samePosition {resource other : Resource} {calls : List Call}
    {key : String} (holds : resource.HoldsCallsOf calls key) (same : other.SamePosition resource) :
    other.HoldsCallsOf calls key :=
  ⟨same.path_eq.trans holds.path_eq, same.calls_eq.trans holds.calls_eq⟩

namespace Catalog

variable {config : Config} {endpoints : List Endpoint} {calls : List Call} {catalog : Catalog}
  {resource : Resource} {group : ResourceGroup} {error : CatalogError}

/-! ## The resources of calls -/

theorem calls_eq_filterMap (hcalls : endpoints.map Call.ofEndpoint? = calls.map some) :
    calls = endpoints.filterMap Call.ofEndpoint? := by
  have hid : (calls.map some).filterMap id = calls := by simp
  rw [← hid, ← hcalls, List.filterMap_map]
  rfl

/-- A draft is new, and holds the calls with some path text. -/
theorem draft_spec (hdraft : resource ∈ (drafts config calls).values) :
    resource.inventory = {} ∧ resource.calls ≠ [] ∧
      ∃ key ∈ calls.map fun call => call.restPath.text, resource.HoldsCallsOf calls key := by
  obtain ⟨key, hkey, rfl⟩ := exists_key_of_mem_drafts hdraft
  refine ⟨rfl, ?_, key, hkey, ⟨rfl, rfl⟩⟩
  obtain ⟨call, hcall, hcallKey⟩ := List.mem_map.mp hkey
  exact List.ne_nil_of_mem (List.mem_filter.mpr ⟨hcall, decide_eq_true hcallKey⟩)

theorem exists_draft (config : Config) {key : String}
    (hkey : key ∈ calls.map fun call => call.restPath.text) :
    ∃ draft ∈ (drafts config calls).values, draft.HoldsCallsOf calls key := by
  rw [values_drafts]
  exact ⟨_, List.mem_map_of_mem (List.mem_map_of_mem (mem_group_entries.mpr ⟨hkey, rfl⟩)),
    ⟨rfl, rfl⟩⟩

section

variable (hbuilt : ofEndpoints endpoints config = .ok catalog)
include hbuilt

/-- Every resource of a catalog holds the calls with some path text. -/
theorem holdsCallsOf_of_mem (hresource : resource ∈ catalog.resources) :
    ∃ key ∈ (endpoints.filterMap Call.ofEndpoint?).map fun call => call.restPath.text,
      resource.HoldsCallsOf (endpoints.filterMap Call.ofEndpoint?) key := by
  obtain ⟨calls, hcalls, hresources, -⟩ := resources_of_ofEndpoints hbuilt
  rw [hresources] at hresource
  obtain ⟨draft, hdraft, rfl⟩ := List.mem_map.mp hresource
  obtain ⟨-, -, key, hkey, holds⟩ := draft_spec hdraft
  rw [← calls_eq_filterMap hcalls]
  exact ⟨key, hkey, holds.of_samePosition (samePosition_initResource config _ draft)⟩

/-- Every path text of a call has its resource. -/
theorem exists_holdsCallsOf {key : String}
    (hkey : key ∈ (endpoints.filterMap Call.ofEndpoint?).map fun call => call.restPath.text) :
    ∃ resource ∈ catalog.resources,
      resource.HoldsCallsOf (endpoints.filterMap Call.ofEndpoint?) key := by
  obtain ⟨calls, hcalls, hresources, -⟩ := resources_of_ofEndpoints hbuilt
  rw [← calls_eq_filterMap hcalls] at hkey ⊢
  obtain ⟨draft, hdraft, holds⟩ := exists_draft config hkey
  rw [hresources]
  exact ⟨_, List.mem_map_of_mem hdraft,
    holds.of_samePosition (samePosition_initResource config _ draft)⟩

end

/-! ## The set-up of one resource -/

/-- Deriving tables and counting calls in refuses nothing. -/
theorem initResource_snd (config : Config) (group : ResourceGroup) (resource : Resource) :
    (initResource config group resource).2 = (group.init resource config.withRows).2 := by
  unfold initResource
  cases group.init resource config.withRows with
  | mk ready refused => cases refused <;> rfl

theorem handled_of_initResource (haccepted : (initResource config group resource).2 = none) :
    ∀ call ∈ resource.calls, call.verb ∈ Verb.handled := by
  rw [initResource_snd] at haccepted
  exact ResourceGroup.handled_of_init haccepted

theorem initResource_of_handled (config : Config) (group : ResourceGroup)
    (hnew : resource.inventory = {}) (hsome : resource.calls ≠ [])
    (hhandled : ∀ call ∈ resource.calls, call.verb ∈ Verb.handled) :
    ∃ ready : Resource, initResource config group resource = (ready, none) ∧
      ready.inventory = group.inventoryOf resource ∧
      ready.templates = Resource.sizeTemplates ready.creationSize?
        (group.templatesOf resource config.withRows) := by
  obtain ⟨params, hinit⟩ :=
    group.init_of_handled hsome hhandled config.withRows hnew
  unfold initResource
  rw [hinit]
  dsimp only
  rw [Resource.updateTemplateSize_eq_sizeTemplates]
  -- deriving tables touches neither the verbs nor the templates
  split
  · exact ⟨_, rfl, rfl, rfl⟩
  · exact ⟨_, rfl, rfl, rfl⟩

/-! ## The set-up of a catalog -/

/-- What the set-up of a resource of a group has entered. -/
structure SetUp (config : Config) (group : ResourceGroup) (resource : Resource) : Prop where
  handled : ∀ call ∈ resource.calls, call.verb ∈ Verb.handled
  inventory_eq : resource.inventory = group.inventoryOf resource
  /-- The templates that the verbs allow, with the calls of the creation counted in. -/
  templates_eq : resource.templates = Resource.sizeTemplates resource.creationSize?
    (group.templatesOf resource config.withRows)

theorem setUp_of_ofEndpoints (hbuilt : ofEndpoints endpoints config = .ok catalog)
    (hresource : resource ∈ catalog.resources) : SetUp config catalog.resources resource := by
  obtain ⟨calls, -, hresources, haccepted⟩ := resources_of_ofEndpoints hbuilt
  rw [hresources] at hresource ⊢
  obtain ⟨draft, hdraft, rfl⟩ := List.mem_map.mp hresource
  obtain ⟨hnew, hsome, -⟩ := draft_spec hdraft
  have hhandled := handled_of_initResource (haccepted draft hdraft)
  obtain ⟨ready, hready, hinventory, htemplates⟩ :=
    initResource_of_handled config (drafts config calls).values hnew hsome hhandled
  have hchange := samePosition_initResource config (drafts config calls).values
  have same : ready.SamePosition draft := by
    have hsame := hchange draft
    rwa [hready] at hsame
  rw [hready]
  constructor
  case handled =>
    rw [same.calls_eq]
    exact hhandled
  case inventory_eq => rw [ResourceGroup.inventoryOf_map hchange same, hinventory]
  case templates_eq => rw [ResourceGroup.templatesOf_map hchange same, htemplates]

/-! ## Refusals -/

/-- Setting all resources up is only refused for one of them. -/
theorem exists_of_initAll_eq_some (entries : List (String × Resource))
    (hrefused : (initAll config group entries).2 = some error) :
    ∃ entry ∈ entries, (initResource config group entry.2).2 = some error := by
  induction entries with
  | nil => cases hrefused
  | cons entry rest ih =>
      unfold initAll at hrefused
      cases hentry : initResource config group entry.2 with
      | mk ready refused =>
          rw [hentry] at hrefused
          cases refused with
          | some other => exact ⟨entry, List.mem_cons_self, by rw [hentry]; exact hrefused⟩
          | none =>
              obtain ⟨other, hother, hrefusal⟩ := ih hrefused
              exact ⟨other, List.mem_cons_of_mem _ hother, hrefusal⟩

theorem blames_of_callsOf (hrefused : callsOf endpoints = .error error) :
    ∃ endpoint ∈ endpoints, error.Blames endpoint := by
  obtain ⟨endpoint, hendpoint, hnone, rfl⟩ := exists_of_callsOf_eq_error hrefused
  unfold Call.ofEndpoint? at hnone
  exact ⟨endpoint, hendpoint, .unknown (Option.map_eq_none_iff.mp hnone)⟩

/-- Setting up the resources of the calls of some endpoints is only refused for the method of
one of them. -/
theorem blames_of_initAll (hcalls : endpoints.map Call.ofEndpoint? = calls.map some)
    (hrefused : (initAll config (drafts config calls).values
      (drafts config calls).entries).2 = some error) :
    ∃ endpoint ∈ endpoints, error.Blames endpoint := by
  obtain ⟨⟨key, draft⟩, hentry, hrefusal⟩ := exists_of_initAll_eq_some _ hrefused
  obtain ⟨hnew, hsome, key, -, holds⟩ := draft_spec (List.mem_map_of_mem (f := Prod.snd) hentry)
  dsimp only at hrefusal hnew hsome holds
  rw [initResource_snd] at hrefusal
  obtain ⟨call, hcall, hunhandled, rfl⟩ :=
    ResourceGroup.exists_of_init_eq_some hnew hsome hrefusal
  rw [holds.calls_eq, List.mem_filter, decide_eq_true_eq] at hcall
  obtain ⟨endpoint, hendpoint, hof⟩ := exists_endpoint_of_mem hcalls hcall.1
  have hname : draft.name = (Path.ofText (Path.ofText endpoint.path).text).text := by
    unfold Resource.name
    rw [holds.path_eq, ← hcall.2, ← path_of_ofEndpoint? hof]
    rfl
  rw [hname]
  exact ⟨endpoint, hendpoint, .unhandled _ (Call.verb_text_of_ofEndpoint? hof) hunhandled⟩

/-- A refusal blames one of the endpoints. -/
theorem blames_of_refused (hrefused : ofEndpoints endpoints config = .error error) :
    ∃ endpoint ∈ endpoints, error.Blames endpoint := by
  unfold ofEndpoints at hrefused
  cases hcalls : callsOf endpoints with
  | error other =>
      rw [hcalls] at hrefused
      obtain rfl := Except.error.inj hrefused
      exact blames_of_callsOf hcalls
  | ok calls =>
      cases hready : initAll config (drafts config calls).values (drafts config calls).entries with
      | mk ready refused =>
          simp only [hcalls, build_eq hready] at hrefused
          cases refused with
          | none => cases hrefused
          | some other =>
              obtain rfl := Except.error.inj hrefused
              exact blames_of_initAll (callsOf_eq_ok_iff.mp hcalls) (congrArg Prod.snd hready)

/-- Endpoints with handled methods make a catalog. -/
theorem exists_of_handled (config : Config) (hhandled : ∀ endpoint ∈ endpoints, endpoint.Handled) :
    ∃ catalog, ofEndpoints endpoints config = .ok catalog := by
  cases hbuilt : ofEndpoints endpoints config with
  | ok catalog => exact ⟨catalog, rfl⟩
  | error error =>
      obtain ⟨endpoint, hendpoint, hblames⟩ := blames_of_refused hbuilt
      exact absurd (hhandled endpoint hendpoint) hblames.not_handled

/-! ## A shop with items -/

def createShop : Call := { verb := .post, path := "/shops" }

def createItem : Call := { verb := .post, path := "/shops/{shopId}/items" }

def readItem : Call := { verb := .get, path := "/shops/{shopId}/items/{itemId}" }

/-- The shop, and its items below it: there are two creators above an item. -/
def nestedEndpoints : List Endpoint :=
  shopEndpoints ++ [{ method := "POST", path := "/shops/{shopId}/items" },
    { method := "GET", path := "/shops/{shopId}/items/{itemId}" }]

def nestedCalls : List Call := [createShop, readShop, createItem, readItem]

/-- The drafts of these calls, which stand from the outermost one on. -/
def nestedDrafts : ResourceGroup :=
  let grouped := (Catalog.group .withToken nestedCalls).values
  grouped.map fun resource =>
    { resource with
      ancestors := ((grouped.zipIdx.filter fun entry =>
        entry.1.path.isAncestor resource.path).map (·.2)).reverse }

theorem values_drafts_nested : (drafts .standard nestedCalls).values = nestedDrafts := by
  have hascending : ∀ resource ∈ (Catalog.group .withToken nestedCalls).values,
      ((Catalog.group .withToken nestedCalls).values.zipIdx.filter fun entry =>
        entry.1.path.isAncestor resource.path).Pairwise
          fun a b => a.1.path.levels < b.1.path.levels := by decide +kernel
  rw [values_drafts]
  unfold nestedDrafts
  refine List.map_congr_left fun resource hresource => ?_
  exact congrArg (fun ancestors => { resource with ancestors })
    (ResourceGroup.ancestorPlaces_of_ascending (hascending resource hresource))

/-- Reading an item is all that its resource does, and its creation is resolved to creating the
shop and then the item.  The ancestors of the resources are nested. -/
theorem exists_items :
    ∃ catalog resource, ofEndpoints nestedEndpoints .standard = .ok catalog ∧
      resource ∈ catalog.resources ∧ resource.calls = [readItem] ∧
      catalog.resources.resolveCreation resource =
        { steps := [createShop, createItem], unresolved := none } ∧
      catalog.resources.map (fun other => (other.name, other.ancestors)) =
        [("/shops", []), ("/shops/{shopId}", [0]), ("/shops/{shopId}/items", [1, 0]),
          ("/shops/{shopId}/items/{itemId}", [2, 1, 0])] ∧
      ∀ other ∈ catalog.resources, other.posts.length ≤ 1 := by
  have hhandled : ∀ endpoint ∈ nestedEndpoints, endpoint.Handled := by decide +kernel
  have hmade : nestedEndpoints.map Call.ofEndpoint? = nestedCalls.map some := by decide +kernel
  have hevaluated : (∃ draft ∈ nestedDrafts, draft.calls = [readItem] ∧
        nestedDrafts.resolveCreation draft =
          { steps := [createShop, createItem], unresolved := none }) ∧
      nestedDrafts.map (fun other => (other.name, other.ancestors)) =
        [("/shops", []), ("/shops/{shopId}", [0]), ("/shops/{shopId}/items", [1, 0]),
          ("/shops/{shopId}/items/{itemId}", [2, 1, 0])] ∧
      ∀ draft ∈ nestedDrafts, draft.posts.length ≤ 1 := by decide +kernel
  obtain ⟨catalog, hbuilt⟩ := exists_of_handled .standard hhandled
  obtain ⟨calls, hcalls, hresources, -⟩ := resources_of_ofEndpoints hbuilt
  obtain rfl := List.map_injective_iff.mpr (Option.some_injective Call) (hcalls.symm.trans hmade)
  rw [values_drafts_nested] at hresources
  have hsame := samePosition_initResource .standard nestedDrafts
  obtain ⟨⟨draft, hdraft, hreads, hresolved⟩, hnested, hsingle⟩ := hevaluated
  refine ⟨catalog, _, hbuilt, hresources ▸ List.mem_map_of_mem hdraft,
    (hsame draft).calls_eq.trans hreads, ?_, ?_, ?_⟩
  · rw [hresources, ResourceGroup.resolveCreation_map hsame (hsame draft), hresolved]
  · rw [hresources, List.map_map, ← hnested]
    refine List.map_congr_left fun other _ => ?_
    exact congrArg₂ (fun path ancestors => (path.text, ancestors)) (hsame other).path_eq
      (hsame other).ancestors_eq
  · intro other hother
    rw [hresources] at hother
    obtain ⟨mate, hmate, rfl⟩ := List.mem_map.mp hother
    rw [(hsame mate).posts_eq]
    exact hsingle mate hmate

end Catalog

end RestCatalog
