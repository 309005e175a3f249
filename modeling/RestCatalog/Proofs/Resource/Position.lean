import RestCatalog.Proofs.Parameter.Note
import RestCatalog.Proofs.Resource.Ancestry
import RestCatalog.Resource.Init
import RestCatalog.Resource.Selection
import RestCatalog.Resource.Tables

/-!
# What setting a resource up leaves alone

The searches for creators read three fields of a resource: its path, its calls and
its ancestors.  Two resources that agree on them are in the `SamePosition`, and a
group in which every resource is exchanged for one in its position answers every
search alike (`closestAbove?_map`, `resolveCreation_map`).

Setting up a resource changes none of the three.  `initParams_eq` and `initVerbs_eq`
say so for its parts by naming the fields that do change, and `init_eq` adds
which chain is registered.
-/

namespace RestCatalog

namespace Resource

/-- Two resources on one path, with the same calls and ancestors. -/
structure SamePosition (a b : Resource) : Prop where
  path_eq : a.path = b.path
  calls_eq : a.calls = b.calls
  ancestors_eq : a.ancestors = b.ancestors

theorem SamePosition.trans {a b c : Resource} (hab : a.SamePosition b) (hbc : b.SamePosition c) :
    a.SamePosition c :=
  ⟨hab.path_eq.trans hbc.path_eq, hab.calls_eq.trans hbc.calls_eq,
    hab.ancestors_eq.trans hbc.ancestors_eq⟩

theorem SamePosition.posts_eq {a b : Resource} (same : a.SamePosition b) : a.posts = b.posts := by
  unfold posts
  rw [same.calls_eq]

/-! ## Parameters, tables and templates -/

/-- Collecting the parameters changes nothing else. -/
theorem initParams_eq (resource : Resource) :
    ∃ params, resource.initParams = { resource with params } := by
  obtain ⟨params, hparams⟩ := resource.paramsEntered_initParams.eq_withParams
  exact ⟨params, hparams⟩

/-- Sizing the templates changes nothing else. -/
theorem updateTemplateSize_eq (resource : Resource) :
    ∃ templates, resource.updateTemplateSize = { resource with templates } := by
  unfold updateTemplateSize
  split
  · exact ⟨resource.templates, rfl⟩
  · exact ⟨_, rfl⟩

end Resource

namespace ResourceGroup

variable {group : ResourceGroup} {resource other : Resource} {change : Resource → Resource}

/-! ## Searches read positions -/

/-- The places of the ancestors depend on the paths in the group. -/
theorem ancestorPlaces_map (hpath : ∀ r, (change r).path = r.path) (path : Path) :
    ancestorPlaces (group.map change) path = group.ancestorPlaces path := by
  unfold ancestorPlaces
  dsimp only
  rw [List.zipIdx_map, List.filter_map,
    ← List.map_mergeSort (f := Prod.map change id)
      (r := fun a b : Resource × Nat => decide (b.1.path.levels ≤ a.1.path.levels))
      (fun a _ b _ => by simp only [Prod.map_fst, hpath]), List.map_map]
  have hfilter : group.zipIdx.filter ((fun entry => entry.1.path.isAncestor path) ∘
      Prod.map change id) = group.zipIdx.filter fun entry => entry.1.path.isAncestor path := by
    refine List.filter_congr fun entry _ => ?_
    simp only [Function.comp, Prod.map_fst, hpath]
  rw [hfilter]
  rfl

theorem ancestorsOf_map (same : other.SamePosition resource) :
    ancestorsOf (group.map change) other = (group.ancestorsOf resource).map change := by
  unfold ancestorsOf
  rw [same.ancestors_eq, List.map_filterMap]
  refine List.filterMap_congr fun place _ => ?_
  rw [List.getElem?_map]

section

variable (hchange : ∀ r, (change r).SamePosition r) (same : other.SamePosition resource)
include hchange same

theorem ancestorCalls_map :
    ancestorCalls (group.map change) other = group.ancestorCalls resource := by
  unfold ancestorCalls
  rw [ancestorsOf_map same, List.flatMap_map]
  exact List.flatMap_congr fun ancestor _ => (hchange ancestor).calls_eq

theorem closestAbove?_map (path : Path) (verbs : List Verb) :
    closestAbove? (group.map change) other path verbs = group.closestAbove? resource path verbs := by
  unfold closestAbove? sameOrAncestor?
  rw [same.path_eq, ancestorsOf_map same, List.find?_map]
  by_cases hpath : resource.path = path
  · simp only [if_pos hpath, ancestorCalls_map hchange same]
  · simp only [if_neg hpath, Function.comp_def, (hchange _).path_eq]
    cases (group.ancestorsOf resource).find? fun ancestor => ancestor.path = path with
    | none => rfl
    | some found => simp only [Option.map_some, ancestorCalls_map hchange (hchange found)]

theorem resolveCreators_map (fuel : Nat) (first : Call) (later : List Call) :
    resolveCreators (group.map change) other fuel first later =
      group.resolveCreators resource fuel first later := by
  induction fuel generalizing first later with
  | zero => rfl
  | succ fuel ih => simp only [resolveCreators, closestAbove?_map hchange same, ih]

/-- A chain is resolved alike in two groups whose resources are in the same positions. -/
theorem resolveCreation_map :
    resolveCreation (group.map change) other = group.resolveCreation resource := by
  unfold resolveCreation creatorOf? Resource.name
  rw [same.posts_eq, same.path_eq, same.ancestors_eq]
  simp only [closestAbove?_map hchange same, resolveCreators_map hchange same]

end

/-- Coherence reads positions only. -/
theorem Coherent.map (coherent : group.Coherent) (hchange : ∀ r, (change r).SamePosition r) :
    Coherent (group.map change) := by
  constructor
  · intro resource hresource
    obtain ⟨r, hr, rfl⟩ := List.mem_map.mp hresource
    rw [ancestorPlaces_map fun r => (hchange r).path_eq, (hchange r).ancestors_eq,
      (hchange r).path_eq]
    exact coherent.ancestors_eq r hr
  · have hpaths : (group.map change).map Resource.path = group.map Resource.path := by
      rw [List.map_map]
      exact List.map_congr_left fun r _ => (hchange r).path_eq
    rw [hpaths]
    exact coherent.nodup_paths
  · intro resource hresource call hcall
    obtain ⟨r, hr, rfl⟩ := List.mem_map.mp hresource
    rw [(hchange r).calls_eq] at hcall
    rw [(hchange r).path_eq]
    exact coherent.restPath_eq r hr call hcall

theorem resolveCreation_congr (same : other.SamePosition resource) :
    group.resolveCreation other = group.resolveCreation resource := by
  have hmap : resolveCreation (group.map id) other = group.resolveCreation resource :=
    resolveCreation_map (fun r => ⟨rfl, rfl, rfl⟩) same
  rwa [List.map_id] at hmap

/-! ## Setting up -/

/-- Entering the verbs changes the inventory and the templates. -/
theorem initVerbs_eq (group : ResourceGroup) (resource : Resource) (withRows : Bool) :
    ∃ inventory templates,
      (group.initVerbs resource withRows).1 = { resource with inventory, templates } := by
  unfold initVerbs
  cases enterVerbs resource.inventory resource.calls with
  | mk inventory refused =>
      cases refused with
      | none => exact ⟨_, _, rfl⟩
      | some verb => exact ⟨inventory, resource.templates, rfl⟩

/-- A set-up that is refused leaves the chains alone, any other registers the chain of POST
calls; neither moves the resource. -/
theorem init_eq (group : ResourceGroup) (resource : Resource) (withRows : Bool) :
    ∃ inventory templates params,
      (group.init resource withRows).1 =
        { resource with
          inventory, templates, params
          creations :=
            if (group.init resource withRows).2.isSome then resource.creations
            else (resource.creations.register (group.resolveCreation resource).chain).1 } := by
  obtain ⟨inventory, templates, hverbs⟩ := initVerbs_eq group resource withRows
  unfold init
  cases hcase : group.initVerbs resource withRows with
  | mk entered refused =>
      rw [hcase] at hverbs
      subst hverbs
      cases refused with
      | some error => exact ⟨inventory, templates, resource.params, rfl⟩
      | none =>
          have hchain : group.resolveCreation { resource with inventory, templates } =
              group.resolveCreation resource := resolveCreation_congr ⟨rfl, rfl, rfl⟩
          dsimp only [initCreations]
          rw [hchain]
          split
          · obtain ⟨params, hparams⟩ := Resource.initParams_eq
              { resource with
                inventory, templates
                creations := (resource.creations.register (group.resolveCreation resource).chain).1 }
            exact ⟨inventory, templates, params, hparams⟩
          · exact ⟨inventory, templates, resource.params, rfl⟩

end ResourceGroup

end RestCatalog
