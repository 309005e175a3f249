import RestCatalog.Proofs.Catalog.SetUp
import RestCatalog.Proofs.Resource.Operation

/-!
# Building a catalog, resource by resource

A resource of a catalog was set up once, when nothing was known about it but its calls and its
ancestors, and then completed: tables were derived, and the templates were sized.  Both can be
told from the finished catalog, since setting the other resources up moves none of them.  So
the resource is what the operations of the completion make of its first set-up
(`exists_firstSetUp`), and what holds along every run from there holds of catalogs.
-/

namespace RestCatalog

variable {σ : Type} [ChoiceSource σ]

/-- What is done to a resource of a catalog after its set-up. -/
def Config.completion (config : Config) : List (ResourceOperation σ) :=
  (if config.tables.isEmpty then [] else [.deriveTables config.tables]) ++
    [.chains .updateTemplateSize]

omit [ChoiceSource σ] in
theorem Config.not_isSetUp_of_mem_completion {config : Config} {operation : ResourceOperation σ}
    (hmem : operation ∈ (config.completion : List (ResourceOperation σ))) :
    ¬ operation.IsSetUp := by
  unfold completion at hmem
  rintro ⟨withRows, rfl⟩
  split at hmem <;> simp at hmem

namespace ResourceGroup

variable {group : ResourceGroup} {change : Resource → Resource}

/-- A set-up depends on the positions in the group only. -/
theorem init_map (hchange : ∀ r, (change r).SamePosition r) (resource : Resource)
    (withRows : Bool) :
    init (group.map change) resource withRows = group.init resource withRows := by
  have hverbs : initVerbs (group.map change) resource withRows =
      group.initVerbs resource withRows := by
    unfold initVerbs
    rw [ancestorCalls_map hchange ⟨rfl, rfl, rfl⟩]
  unfold init
  rw [hverbs]
  cases group.initVerbs resource withRows with
  | mk entered refused =>
      cases refused with
      | some error => rfl
      | none =>
          dsimp only [initCreations]
          rw [resolveCreation_map hchange ⟨rfl, rfl, rfl⟩]

end ResourceGroup

namespace Catalog

variable {config : Config} {endpoints : List Endpoint} {catalog : Catalog} {resource : Resource}

/-- The first set-up of a resource of a catalog, and what completed it. -/
structure FirstSetUp (σ : Type) [ChoiceSource σ] (config : Config) (group : ResourceGroup)
    (resource first : Resource) : Prop where
  mode_eq : resource.mode = config.initMode
  calls_ne_nil : resource.calls ≠ []
  init_eq : group.init resource.bare config.withRows = (first, none)
  run_completion : group.run first (config.completion : List (ResourceOperation σ)) = resource

theorem exists_firstSetUp (σ : Type) [ChoiceSource σ]
    (hbuilt : ofEndpoints endpoints config = .ok catalog)
    (hresource : resource ∈ catalog.resources) :
    ∃ first, FirstSetUp σ config catalog.resources resource first := by
  obtain ⟨calls, -, hresources, haccepted⟩ := resources_of_ofEndpoints hbuilt
  rw [hresources] at hresource ⊢
  obtain ⟨draft, hdraft, rfl⟩ := List.mem_map.mp hresource
  obtain ⟨-, hsome, -⟩ := draft_spec hdraft
  obtain ⟨inventory, templates, params, tables, hready⟩ :=
    initResource_eq config (drafts config calls).values draft
  -- a draft has nothing yet but its position and its mode
  obtain ⟨key, -, hmade⟩ := exists_key_of_mem_drafts hdraft
  have hbare : (initResource config (drafts config calls).values draft).1.bare = draft := by
    rw [hready, hmade]
    rfl
  have hmode : draft.mode = config.initMode := by rw [hmade]; rfl
  cases hinit : ResourceGroup.init (drafts config calls).values draft config.withRows with
  | mk first refused =>
      have hnone : refused = none := by
        have haccept := haccepted draft hdraft
        rwa [initResource_snd, hinit] at haccept
      subst hnone
      refine ⟨first, ?_⟩
      constructor
      case mode_eq =>
        rw [hready]
        exact hmode
      case calls_ne_nil =>
        rw [hready]
        exact hsome
      case init_eq =>
        rw [hbare, ResourceGroup.init_map (samePosition_initResource config _), hinit]
      case run_completion =>
        unfold initResource Config.completion
        rw [hinit]
        cases config.tables.isEmpty <;> rfl

namespace FirstSetUp

variable {group : ResourceGroup} {first : Resource}
  (firstSetUp : FirstSetUp σ config group resource first)
include firstSetUp

theorem handled : ∀ call ∈ resource.calls, call.verb ∈ Verb.handled := by
  have hhandled := ResourceGroup.handled_of_init (congrArg Prod.snd firstSetUp.init_eq)
  exact hhandled

/-- It starts with the position and the mode of the resource. -/
theorem first_eq : first = group.setUp resource.bare config.withRows := by
  have hcalls : resource.bare.calls ≠ [] := firstSetUp.calls_ne_nil
  have hhandled : ∀ call ∈ resource.bare.calls, call.verb ∈ Verb.handled := firstSetUp.handled
  have hinit := firstSetUp.init_eq
  rw [ResourceGroup.init_of_known hcalls hhandled config.withRows (.inl rfl)] at hinit
  exact (congrArg Prod.fst hinit).symm

theorem bare_eq : first.bare = resource.bare := by
  rw [firstSetUp.first_eq]
  rfl

theorem inventory_eq : first.inventory = group.inventoryOf first := by
  rw [firstSetUp.first_eq]
  rfl

theorem templates_eq :
    first.templates = (group.inventoryOf resource).sampleSpace resource.path.hasVariables
      config.withRows := by
  rw [firstSetUp.first_eq]
  rfl

/-- The chain of POST calls that was resolved is the only one. -/
theorem creations_eq :
    first.creations =
      (({} : CreationStore).register (group.resolveCreation resource).chain).1 := by
  have hchain : group.resolveCreation resource.bare = group.resolveCreation resource :=
    ResourceGroup.resolveCreation_congr ⟨rfl, rfl, rfl⟩
  rw [firstSetUp.first_eq, ← hchain]
  rfl

end FirstSetUp

end Catalog

end RestCatalog
