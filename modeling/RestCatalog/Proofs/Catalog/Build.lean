import RestCatalog.Catalog
import RestCatalog.Proofs.OrderedMap
import RestCatalog.Proofs.Reading
import RestCatalog.Proofs.Resource.Ancestry
import RestCatalog.Proofs.Resource.Position

/-!
# What a catalog of endpoints is made of

A catalog is built in three passes, and only the last one can be refused.  Up to
there stand the `drafts`: the resources of the calls, each with its ancestors.  If
nothing is refused, the catalog holds the drafts after their set-up
(`entries_of_ofEndpoints`), and since a set-up moves no resource, it is made against
the catalog itself: the chains of a resource are what registering its resolution
gives (`creations_of_ofEndpoints`).

Calls are grouped by the path that their text normalises to, while a resource
normalises that path once more.  `Path.Stable` says that this changes nothing; for
endpoints with stable paths the resources form a coherent group
(`coherent_of_ofEndpoints`).
-/

namespace RestCatalog

/-- A text whose path is not changed by normalising it again. -/
def Path.Stable (text : String) : Prop :=
  Path.ofText (Path.ofText text).text = Path.ofText text

instance (text : String) : Decidable (Path.Stable text) := by
  unfold Path.Stable
  infer_instance

namespace Catalog

variable {config : Config} {endpoints : List Endpoint} {calls : List Call} {catalog : Catalog}
  {resource : Resource} {group : ResourceGroup}

/-! ## Calls and groups -/

theorem callsOf_eq_readEach (endpoints : List Endpoint) :
    callsOf endpoints = readEach Call.ofEndpoint?
      (fun endpoint => .unknownVerb (Text.upper endpoint.method)) endpoints := by
  unfold callsOf readEach
  congr
  funext endpoint
  cases Call.ofEndpoint? endpoint <;> rfl

/-- The calls are those of the endpoints, one each. -/
theorem callsOf_eq_ok_iff :
    callsOf endpoints = .ok calls ↔ endpoints.map Call.ofEndpoint? = calls.map some := by
  rw [callsOf_eq_readEach, readEach_eq_ok_iff]

/-- The method that is refused is no verb. -/
theorem exists_of_callsOf_eq_error {error : CatalogError}
    (hrefused : callsOf endpoints = .error error) :
    ∃ endpoint ∈ endpoints, Call.ofEndpoint? endpoint = none ∧
      error = .unknownVerb (Text.upper endpoint.method) := by
  rw [callsOf_eq_readEach, readEach_eq_error_iff] at hrefused
  obtain ⟨endpoint, hfound, rfl⟩ := hrefused
  refine ⟨endpoint, List.mem_of_find?_eq_some hfound, ?_, rfl⟩
  simpa using List.find?_some hfound

/-- Each call was made from an endpoint, and each endpoint has its call. -/
theorem exists_endpoint_of_mem {call : Call}
    (hcalls : endpoints.map Call.ofEndpoint? = calls.map some) (hcall : call ∈ calls) :
    ∃ endpoint ∈ endpoints, Call.ofEndpoint? endpoint = some call := by
  refine List.mem_map.mp ?_
  rw [hcalls]
  exact List.mem_map_of_mem hcall

theorem exists_call_of_mem {endpoint : Endpoint}
    (hcalls : endpoints.map Call.ofEndpoint? = calls.map some) (hendpoint : endpoint ∈ endpoints) :
    ∃ call ∈ calls, Call.ofEndpoint? endpoint = some call := by
  have hmem : Call.ofEndpoint? endpoint ∈ calls.map some := by
    rw [← hcalls]
    exact List.mem_map_of_mem hendpoint
  obtain ⟨call, hcall, hof⟩ := List.mem_map.mp hmem
  exact ⟨call, hcall, hof.symm⟩

theorem path_of_ofEndpoint? {endpoint : Endpoint} {call : Call}
    (hcall : Call.ofEndpoint? endpoint = some call) : call.path = endpoint.path := by
  unfold Call.ofEndpoint? at hcall
  obtain ⟨verb, -, rfl⟩ := Option.map_eq_some_iff.mp hcall
  rfl

/-- A resource of grouped calls stands on the path of its group and holds the calls of it. -/
theorem mem_group_entries {mode : InitMode} {key : String} :
    (key, resource) ∈ (Catalog.group mode calls).entries ↔
      key ∈ calls.map (fun call => call.restPath.text) ∧
        resource =
          { path := Path.ofText key
            calls := calls.filter fun call => call.restPath.text = key
            mode } := by
  unfold Catalog.group
  simp only [List.mem_map, Prod.exists, Prod.mk.injEq]
  constructor
  · rintro ⟨key', members, hentry, rfl, rfl⟩
    obtain ⟨hkey, rfl⟩ := (OrderedMap.mem_entries_groupBy _).mp hentry
    exact ⟨List.mem_map.mp hkey, rfl⟩
  · rintro ⟨hkey, rfl⟩
    exact ⟨key, _, (OrderedMap.mem_entries_groupBy _).mpr ⟨List.mem_map.mpr hkey, rfl⟩, rfl, rfl⟩

theorem keys_group (mode : InitMode) (calls : List Call) :
    (Catalog.group mode calls).keys = (calls.map fun call => call.restPath.text).eraseDups := by
  rw [← OrderedMap.keys_groupBy]
  unfold Catalog.group OrderedMap.keys
  rw [List.map_map]
  rfl

/-! ## Setting all resources up -/

/-- The resources of calls with their ancestors, before any of them is set up. -/
def drafts (config : Config) (calls : List Call) : OrderedMap String Resource :=
  let entries := Catalog.group config.initMode calls
  entries.mapValues (ResourceGroup.withAncestors entries.values)

theorem values_drafts (config : Config) (calls : List Call) :
    (drafts config calls).values =
      (Catalog.group config.initMode calls).values.map
        (ResourceGroup.withAncestors (Catalog.group config.initMode calls).values) := by
  unfold drafts
  rw [OrderedMap.values_mapValues]

theorem mem_group_values {mode : InitMode} (hmem : resource ∈ (Catalog.group mode calls).values) :
    ∃ key, (key, resource) ∈ (Catalog.group mode calls).entries := by
  obtain ⟨entry, hentry, rfl⟩ := List.mem_map.mp hmem
  exact ⟨entry.1, hentry⟩

/-- The paths of stable calls tell their resources apart: they are the keys of the groups. -/
private theorem nodup_paths_group {mode : InitMode}
    (hstable : ∀ call ∈ calls, Path.Stable call.path) :
    ((Catalog.group mode calls).values.map Resource.path).Nodup := by
  have htexts : ((Catalog.group mode calls).values.map Resource.path).map Path.text =
      (Catalog.group mode calls).keys := by
    unfold OrderedMap.values OrderedMap.keys
    rw [List.map_map, List.map_map]
    refine List.map_congr_left fun entry hentry => ?_
    obtain ⟨hkey, hmade⟩ := mem_group_entries.mp hentry
    obtain ⟨call, hcall, hcallKey⟩ := List.mem_map.mp hkey
    simp only [Function.comp, hmade]
    rw [← hcallKey]
    exact congrArg Path.text (hstable call hcall)
  refine List.Nodup.of_map Path.text ?_
  rw [htexts, keys_group]
  exact nodup_eraseDups _

/-- Every draft knows its ancestors among the drafts. -/
theorem ancestors_of_mem_drafts (hdraft : resource ∈ (drafts config calls).values) :
    resource.ancestors = ResourceGroup.ancestorPlaces (drafts config calls).values resource.path := by
  rw [values_drafts] at hdraft ⊢
  obtain ⟨grouped, -, rfl⟩ := List.mem_map.mp hdraft
  have hpath : ∀ r, (ResourceGroup.withAncestors
      (Catalog.group config.initMode calls).values r).path = r.path := fun r => rfl
  rw [ResourceGroup.ancestorPlaces_map hpath, hpath]
  rfl

/-- A draft stands on the path of a group and holds the calls of it. -/
theorem exists_key_of_mem_drafts (hdraft : resource ∈ (drafts config calls).values) :
    ∃ key ∈ calls.map fun call => call.restPath.text,
      resource = ResourceGroup.withAncestors (Catalog.group config.initMode calls).values
        { path := Path.ofText key
          calls := calls.filter fun call => call.restPath.text = key
          mode := config.initMode } := by
  rw [values_drafts] at hdraft
  obtain ⟨grouped, hgrouped, rfl⟩ := List.mem_map.mp hdraft
  obtain ⟨key, hentry⟩ := mem_group_values hgrouped
  obtain ⟨hkey, rfl⟩ := mem_group_entries.mp hentry
  exact ⟨key, hkey, rfl⟩

theorem coherent_drafts (config : Config) (hstable : ∀ call ∈ calls, Path.Stable call.path) :
    ResourceGroup.Coherent (drafts config calls).values := by
  refine ⟨fun resource hdraft => ancestors_of_mem_drafts hdraft, ?_, ?_⟩
  · rw [values_drafts, List.map_map]
    exact nodup_paths_group hstable
  · intro resource hdraft call hcall
    obtain ⟨key, -, rfl⟩ := exists_key_of_mem_drafts hdraft
    change call ∈ calls.filter fun call => call.restPath.text = key at hcall
    change call.restPath = Path.ofText key
    rw [List.mem_filter, decide_eq_true_eq] at hcall
    rw [← hcall.2]
    exact (hstable call hcall.1).symm

/-- Nothing is registered before the set-up. -/
theorem creations_of_mem_drafts (hdraft : resource ∈ (drafts config calls).values) :
    resource.creations = {} := by
  obtain ⟨key, -, rfl⟩ := exists_key_of_mem_drafts hdraft
  rfl

theorem initAll_eq_none {entries ready : List (String × Resource)}
    (hready : initAll config group entries = (ready, none)) :
    ready = entries.map (fun entry => (entry.1, (initResource config group entry.2).1)) ∧
      ∀ entry ∈ entries, (initResource config group entry.2).2 = none := by
  induction entries generalizing ready with
  | nil =>
      unfold initAll at hready
      cases hready
      simp
  | cons entry rest ih =>
      unfold initAll at hready
      cases hentry : initResource config group entry.2 with
      | mk done refused =>
          cases refused with
          | some error => simp [hentry] at hready
          | none =>
              cases hrest : initAll config group rest with
              | mk others refused =>
                  simp only [hentry, hrest, Prod.mk.injEq] at hready
                  obtain ⟨rfl, rfl⟩ := hready
                  -- no refusal at the head, so the rest was set up as well
                  obtain ⟨rfl, hnone⟩ := ih hrest
                  refine ⟨by simp [hentry], ?_⟩
                  intro other hother
                  rcases List.mem_cons.mp hother with rfl | hother
                  · rw [hentry]
                  · exact hnone other hother

/-- Setting a resource of a catalog up registers its chain, unless it is refused, and does not
move it. -/
theorem initResource_eq (config : Config) (group : ResourceGroup) (resource : Resource) :
    ∃ inventory templates params tables,
      (initResource config group resource).1 =
        { resource with
          inventory, templates, params, tables
          creations :=
            if (initResource config group resource).2.isSome then resource.creations
            else (resource.creations.register (group.resolveCreation resource).chain).1 } := by
  obtain ⟨inventory, templates, params, hinit⟩ :=
    ResourceGroup.init_eq group resource config.withRows
  unfold initResource
  cases hcase : group.init resource config.withRows with
  | mk done refused =>
      rw [hcase] at hinit
      cases refused with
      | some error => exact ⟨inventory, templates, params, resource.tables, hinit⟩
      | none =>
          obtain ⟨sized, hsized⟩ := Resource.updateTemplateSize_eq
            (if config.tables.isEmpty then done else done.deriveTables config.tables)
          dsimp only
          rw [hsized]
          simp only [Option.isSome_none, Bool.false_eq_true, if_false] at hinit
          subst hinit
          split
          · exact ⟨inventory, sized, params, resource.tables, rfl⟩
          · exact ⟨inventory, sized, params, _, rfl⟩

theorem samePosition_initResource (config : Config) (group : ResourceGroup) (resource : Resource) :
    (initResource config group resource).1.SamePosition resource := by
  obtain ⟨inventory, templates, params, tables, hinit⟩ := initResource_eq config group resource
  rw [hinit]
  exact ⟨rfl, rfl, rfl⟩

/-! ## The built catalog -/

theorem build_eq {calls : List Call} {ready : List (String × Resource)}
    {refused : Option CatalogError}
    (hready : initAll config (drafts config calls).values (drafts config calls).entries =
      (ready, refused)) :
    build config calls = ({ config, entries := ⟨ready⟩ }, refused) := by
  unfold drafts at hready
  unfold build
  dsimp only at hready ⊢
  rw [hready]

/-- A catalog that was not refused holds the drafts after their set-up. -/
theorem entries_of_ofEndpoints (hbuilt : ofEndpoints endpoints config = .ok catalog) :
    ∃ calls, endpoints.map Call.ofEndpoint? = calls.map some ∧
      catalog.entries = (drafts config calls).mapValues (fun draft =>
        (initResource config (drafts config calls).values draft).1) ∧
      ∀ draft ∈ (drafts config calls).values,
        (initResource config (drafts config calls).values draft).2 = none := by
  unfold ofEndpoints at hbuilt
  cases hcalls : callsOf endpoints with
  | error error => simp [hcalls] at hbuilt
  | ok calls =>
      refine ⟨calls, callsOf_eq_ok_iff.mp hcalls, ?_⟩
      cases hready : initAll config (drafts config calls).values (drafts config calls).entries with
      | mk ready refused =>
          simp only [hcalls, build_eq hready] at hbuilt
          cases refused with
          | some error => simp at hbuilt
          | none =>
              simp only [Except.ok.injEq] at hbuilt
              subst hbuilt
              obtain ⟨rfl, hnone⟩ := initAll_eq_none hready
              refine ⟨rfl, ?_⟩
              intro draft hdraft
              obtain ⟨entry, hentry, rfl⟩ := List.mem_map.mp hdraft
              exact hnone entry hentry

/-- Under a key stands a resource with the calls that have it. -/
theorem calls_eq_of_mem_entries (config : Config) {entry : String × Resource}
    (hentry : entry ∈ ((drafts config calls).mapValues (fun draft =>
      (initResource config (drafts config calls).values draft).1)).entries) :
    entry.2.calls = calls.filter fun call => call.restPath.text = entry.1 := by
  obtain ⟨draft, hdraft, rfl⟩ := List.mem_map.mp hentry
  obtain ⟨grouped, hgrouped, rfl⟩ := List.mem_map.mp hdraft
  -- neither the set-up nor the ancestors change the calls
  dsimp only
  rw [(samePosition_initResource config _ _).calls_eq]
  exact congrArg Resource.calls (mem_group_entries.mp hgrouped).2

theorem keys_of_mapValues_drafts (config : Config) (change : Resource → Resource) :
    ((drafts config calls).mapValues change).keys =
      (calls.map fun call => call.restPath.text).eraseDups := by
  unfold drafts
  rw [OrderedMap.keys_mapValues, OrderedMap.keys_mapValues, keys_group]

theorem resources_of_ofEndpoints (hbuilt : ofEndpoints endpoints config = .ok catalog) :
    ∃ calls, endpoints.map Call.ofEndpoint? = calls.map some ∧
      catalog.resources = (drafts config calls).values.map (fun draft =>
        (initResource config (drafts config calls).values draft).1) ∧
      ∀ draft ∈ (drafts config calls).values,
        (initResource config (drafts config calls).values draft).2 = none := by
  obtain ⟨calls, hcalls, hentries, haccepted⟩ := entries_of_ofEndpoints hbuilt
  refine ⟨calls, hcalls, ?_, haccepted⟩
  unfold resources
  rw [hentries, OrderedMap.values_mapValues]

/-- Every resource of a catalog has registered, as its only chain, the resolution of its
creation against the catalog. -/
theorem creations_of_ofEndpoints (hbuilt : ofEndpoints endpoints config = .ok catalog)
    (hresource : resource ∈ catalog.resources) :
    resource.creations =
      (({} : CreationStore).register (catalog.resources.resolveCreation resource).chain).1 := by
  obtain ⟨calls, -, hresources, haccepted⟩ := resources_of_ofEndpoints hbuilt
  rw [hresources] at hresource ⊢
  obtain ⟨draft, hdraft, rfl⟩ := List.mem_map.mp hresource
  rw [ResourceGroup.resolveCreation_map (samePosition_initResource config _)
    (samePosition_initResource config _ draft)]
  obtain ⟨inventory, templates, params, tables, hinit⟩ :=
    initResource_eq config (drafts config calls).values draft
  rw [hinit, haccepted draft hdraft, creations_of_mem_drafts hdraft]
  rfl

/-- Every resource of a catalog knows its ancestors in the catalog. -/
theorem ancestors_of_ofEndpoints (hbuilt : ofEndpoints endpoints config = .ok catalog)
    (hresource : resource ∈ catalog.resources) :
    resource.ancestors = catalog.resources.ancestorPlaces resource.path := by
  obtain ⟨calls, -, hresources, -⟩ := resources_of_ofEndpoints hbuilt
  rw [hresources] at hresource ⊢
  obtain ⟨draft, hdraft, rfl⟩ := List.mem_map.mp hresource
  have hsame := samePosition_initResource config (drafts config calls).values
  rw [ResourceGroup.ancestorPlaces_map fun r => (hsame r).path_eq, (hsame draft).path_eq,
    (hsame draft).ancestors_eq]
  exact ancestors_of_mem_drafts hdraft

/-- The resources of endpoints with stable paths form a coherent group. -/
theorem coherent_of_ofEndpoints (hbuilt : ofEndpoints endpoints config = .ok catalog)
    (hstable : ∀ endpoint ∈ endpoints, Path.Stable endpoint.path) :
    catalog.resources.Coherent := by
  obtain ⟨calls, hcalls, hresources, -⟩ := resources_of_ofEndpoints hbuilt
  have hcallsStable : ∀ call ∈ calls, Path.Stable call.path := by
    intro call hcall
    obtain ⟨endpoint, hendpoint, hof⟩ := exists_endpoint_of_mem hcalls hcall
    rw [path_of_ofEndpoint? hof]
    exact hstable endpoint hendpoint
  rw [hresources]
  exact (coherent_drafts config hcallsStable).map (samePosition_initResource config _)

theorem mem_resources_of_resourceAt? {path : String}
    (hfound : catalog.resourceAt? path = some resource) : resource ∈ catalog.resources := by
  unfold resourceAt? at hfound
  exact List.mem_map_of_mem (f := Prod.snd) (OrderedMap.mem_entries_of_get? hfound)

/-- What evaluation finds of the catalog of some endpoints. -/
theorem exists_of_any {check : Catalog → Bool}
    (hcheck : (ofEndpoints endpoints config).toOption.any check = true) :
    ∃ catalog, ofEndpoints endpoints config = .ok catalog ∧ check catalog = true := by
  cases hbuilt : ofEndpoints endpoints config with
  | error error => simp [hbuilt, Except.toOption] at hcheck
  | ok catalog =>
      rw [hbuilt] at hcheck
      exact ⟨catalog, rfl, hcheck⟩

/-! ## A shop -/

/-- A catalog whose shops are created on one path and read on another one. -/
def shopEndpoints : List Endpoint :=
  [{ method := "POST", path := "/shops" }, { method := "GET", path := "/shops/{shopId}" }]

/-- The call that reads a shop. -/
def readShop : Call := { verb := .get, path := "/shops/{shopId}" }

/-- The endpoints of the shop are accepted, and reading one is all that its resource does. -/
theorem exists_shop :
    ∃ catalog resource, ofEndpoints shopEndpoints .standard = .ok catalog ∧
      resource ∈ catalog.resources ∧ resource.calls = [readShop] ∧
      ∀ other ∈ catalog.resources, other.posts.length ≤ 1 := by
  have hevaluated : (ofEndpoints shopEndpoints .standard).toOption.any (fun catalog =>
      (catalog.resourceAt? readShop.path).any (fun resource => resource.calls = [readShop]) &&
        catalog.resources.all fun other => other.posts.length ≤ 1) = true := by
    decide +kernel
  obtain ⟨catalog, hbuilt, hfacts⟩ := exists_of_any hevaluated
  simp only [Bool.and_eq_true, List.all_eq_true, decide_eq_true_eq] at hfacts
  obtain ⟨resource, hfound, hcalls⟩ := (Option.any_eq_true _ _).mp hfacts.1
  exact ⟨catalog, resource, hbuilt, mem_resources_of_resourceAt? hfound,
    of_decide_eq_true hcalls, hfacts.2⟩

end Catalog

end RestCatalog
