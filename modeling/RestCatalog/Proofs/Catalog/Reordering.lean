import RestCatalog.Proofs.Catalog.SetUp
import RestCatalog.Proofs.Resource.Reordering

/-!
# The order of the endpoints

Endpoints in another order make a catalog with the same resources in another order, and the
calls of each in another order too (`reordered_of_ofEndpoints`).  The POST that creates a
resource can then be another one, but only on a path of the same shape, and so two resources
on one path `Agree`.

* Inventory and templates are functions of what the reordering keeps, but for the number of
  calls that the creation counts in.
* The chain of POST calls has as many steps in both catalogs, on equivalent paths, and is
  settled alike (`Resolution.Parallel.chain`), so this number is the same as well.

`ofEndpoints_perm` puts it together.
-/

namespace RestCatalog

namespace ResourceGroup

/-- What two resources on one path, each in a group of its own, have in common. -/
structure Agree (group others : ResourceGroup) (resource other : Resource) : Prop where
  inventory_eq : resource.inventory = other.inventory
  /-- The same templates in the same order, and of the same sizes. -/
  templates_eq : resource.templates = other.templates
  ancestors_iff : ∀ path, path ∈ (group.ancestorsOf resource).map Resource.path ↔
    path ∈ (others.ancestorsOf other).map Resource.path
  parallel_chains : ∃ chain chain', resource.creations.postChain? = some chain ∧
    other.creations.postChain? = some chain' ∧ chain.Parallel chain'

end ResourceGroup

namespace Catalog

variable {config : Config} {endpoints others : List Endpoint} {catalog other : Catalog}
  {resource resource' : Resource}

/-! ## Catalogs of the same endpoints -/

section

variable (hbuilt : ofEndpoints endpoints config = .ok catalog)
  (hbuilt' : ofEndpoints others config = .ok other) (hperm : endpoints.Perm others)
include hbuilt hbuilt' hperm

private theorem exists_counterpart (hresource : resource ∈ catalog.resources) :
    ∃ resource' ∈ other.resources, resource.Counterpart resource' := by
  have hcalls := hperm.filterMap Call.ofEndpoint?
  obtain ⟨key, hkey, holds⟩ := holdsCallsOf_of_mem hbuilt hresource
  obtain ⟨resource', hresource', holds'⟩ :=
    exists_holdsCallsOf hbuilt' ((hcalls.map _).subset hkey)
  refine ⟨resource', hresource', holds.path_eq.trans holds'.path_eq.symm, ?_⟩
  rw [holds.calls_eq, holds'.calls_eq]
  exact hcalls.filter _

theorem reordered_of_ofEndpoints (hstable : ∀ endpoint ∈ endpoints, Path.Stable endpoint.path) :
    ResourceGroup.Reordered catalog.resources other.resources where
  coherent := coherent_of_ofEndpoints hbuilt hstable
  coherent' := coherent_of_ofEndpoints hbuilt' fun endpoint hendpoint =>
    hstable endpoint (hperm.symm.subset hendpoint)
  forth := fun _ => exists_counterpart hbuilt hbuilt' hperm
  back := fun _ => exists_counterpart hbuilt' hbuilt hperm.symm

theorem agree_of_path_eq (hstable : ∀ endpoint ∈ endpoints, Path.Stable endpoint.path)
    (hresource : resource ∈ catalog.resources) (hresource' : resource' ∈ other.resources)
    (hpath : resource.path = resource'.path) :
    ResourceGroup.Agree catalog.resources other.resources resource resource' := by
  have reordered := reordered_of_ofEndpoints hbuilt hbuilt' hperm hstable
  have setUp := setUp_of_ofEndpoints hbuilt hresource
  have setUp' := setUp_of_ofEndpoints hbuilt' hresource'
  have hchain := postChain?_eq_resolveCreation hbuilt hresource
  have hchain' := postChain?_eq_resolveCreation hbuilt' hresource'
  have parallel := reordered.parallel_resolveCreation hresource hresource' hpath
  have hinventories := reordered.inventoryOf_eq hresource hresource' hpath
  have hinventory : resource.inventory = resource'.inventory := by
    rw [setUp.inventory_eq, setUp'.inventory_eq, hinventories]
  have hsize : resource.creationSize? = resource'.creationSize? := by
    rw [Resource.creationSize?_eq hchain, Resource.creationSize?_eq hchain', hinventory,
      parallel.isSome_unresolved, parallel.steps.length_eq]
  have htemplates : catalog.resources.templatesOf resource config.withRows =
      other.resources.templatesOf resource' config.withRows := by
    unfold ResourceGroup.templatesOf
    rw [hinventories, hpath]
  constructor
  case inventory_eq => exact hinventory
  case templates_eq => rw [setUp.templates_eq, setUp'.templates_eq, hsize, htemplates]
  case ancestors_iff =>
    intro path
    exact ⟨reordered.mem_ancestorPaths hresource hresource' hpath,
      reordered.symm.mem_ancestorPaths hresource' hresource hpath.symm⟩
  case parallel_chains => exact ⟨_, _, hchain, hchain', parallel.chain⟩

end

/-- The order of the endpoints does not matter: both orders make a catalog, with resources on the
same paths, and two resources on one path agree. -/
theorem ofEndpoints_perm (config : Config) (hperm : endpoints.Perm others)
    (hhandled : ∀ endpoint ∈ endpoints, endpoint.Handled)
    (hstable : ∀ endpoint ∈ endpoints, Path.Stable endpoint.path) :
    ∃ catalog other, ofEndpoints endpoints config = .ok catalog ∧
      ofEndpoints others config = .ok other ∧
      (catalog.resources.map Resource.path).Perm (other.resources.map Resource.path) ∧
      ∀ resource ∈ catalog.resources, ∀ resource' ∈ other.resources,
        resource.path = resource'.path →
          ResourceGroup.Agree catalog.resources other.resources resource resource' := by
  obtain ⟨catalog, hbuilt⟩ := exists_of_handled config hhandled
  have hhandled' : ∀ endpoint ∈ others, endpoint.Handled := fun endpoint hendpoint =>
    hhandled endpoint (hperm.symm.subset hendpoint)
  obtain ⟨other, hbuilt'⟩ := exists_of_handled config hhandled'
  refine ⟨catalog, other, hbuilt, hbuilt',
    (reordered_of_ofEndpoints hbuilt hbuilt' hperm hstable).perm_paths, ?_⟩
  intro resource hresource resource' hresource' hpath
  exact agree_of_path_eq hbuilt hbuilt' hperm hstable hresource hresource' hpath

/-- Two POSTs on paths of one shape: which of them creates an item is a matter of the order. -/
def marketEndpoints : List Endpoint :=
  [{ method := "POST", path := "/shops" },
    { method := "POST", path := "/shops/{id}/items" },
    { method := "post", path := "/shops/{shopId}/items" },
    { method := "GET", path := "/shops/{shopId}/items/{itemId}" }]

theorem ofEndpoints_perm_market :
    marketEndpoints.Perm marketEndpoints.reverse ∧
      (∀ endpoint ∈ marketEndpoints, endpoint.Handled) ∧
      (∀ endpoint ∈ marketEndpoints, Path.Stable endpoint.path) ∧
      ∃ catalog other, ofEndpoints marketEndpoints .standard = .ok catalog ∧
        ofEndpoints marketEndpoints.reverse .standard = .ok other ∧
        (catalog.resources.map Resource.path).Perm (other.resources.map Resource.path) ∧
        ∀ resource ∈ catalog.resources, ∀ resource' ∈ other.resources,
          resource.path = resource'.path →
            ResourceGroup.Agree catalog.resources other.resources resource resource' := by
  have hperm : marketEndpoints.Perm marketEndpoints.reverse := (List.reverse_perm _).symm
  have hhandled : ∀ endpoint ∈ marketEndpoints, endpoint.Handled := by decide +kernel
  have hstable : ∀ endpoint ∈ marketEndpoints, Path.Stable endpoint.path := by decide +kernel
  exact ⟨hperm, hhandled, hstable, ofEndpoints_perm .standard hperm hhandled hstable⟩

end Catalog

end RestCatalog
