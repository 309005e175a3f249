import RestCatalog.Proofs.Catalog.FirstSetUp
import RestCatalog.Proofs.Template.Naming

/-!
# Setting a resource up again

A set-up rebuilds four parts of a resource in place, and each in its own way: the inventory is
only added to, the templates and the parameters are started over, and the chain of POST calls is
registered among the chains that are there.  The first three come out as they did at first,
because what they are made from never changes: the position, the mode and the calls
(`ResourceGroup.bare_step`), and by them the inventory (`Lasting`).  Of the chains, only the one
that was resolved at first is written again, and not even that one if it has failed
(`CreationStore.register_eq`).

So nothing that happened in between shows after another set-up, except the chains
(`Renewed`, `Catalog.renewal`), and a set-up that follows on a set-up does nothing
(`ResourceGroup.setUp_setUp`).
-/

namespace RestCatalog

/-! ## Registering a chain again -/

namespace CreationStore

variable {store : CreationStore} {chain : CreationChain}

/-- The chain that is stored when a chain is registered: a failed one that has its key stays. -/
def keptFor (store : CreationStore) (chain : CreationChain) : CreationChain :=
  match store.chains.get? chain.key with
  | some existing => if existing.isFailed then existing else chain
  | none => chain

theorem register_eq (wellKeyed : store.WellKeyed) (hpost : chain.variant = .post) :
    (store.register chain).1 =
      { chains := store.chains.insert chain.key (store.keptFor chain)
        lastPost := some chain.key } := by
  have hvariant : (store.keptFor chain).variant = .post := by
    unfold keptFor
    split
    case h_1 existing hget =>
      have hkey := wellKeyed.key_eq_of_get? hget
      split
      · exact (congrArg ChainKey.variant hkey).trans hpost
      · exact hpost
    case h_2 => exact hpost
  have hregister : (store.register chain).1 =
      { chains := store.chains.insert chain.key (store.keptFor chain)
        lastPost :=
          if (store.keptFor chain).variant = .post then some chain.key else store.lastPost } :=
    rfl
  rw [hregister, if_pos hvariant]

/-- Registering a chain twice is registering it once. -/
theorem register_register (wellKeyed : store.WellKeyed) (hpost : chain.variant = .post) :
    ((store.register chain).1.register chain).1 = (store.register chain).1 := by
  have hagain := register_eq (wellKeyed.register chain).1 hpost
  have hget : (store.register chain).1.chains.get? chain.key = some (store.keptFor chain) := by
    rw [register_eq wellKeyed hpost]
    exact OrderedMap.get?_insert_self _ _ _
  have hkept : (store.register chain).1.keptFor chain = store.keptFor chain := by
    unfold keptFor at hget ⊢
    rw [hget]
    dsimp only
    split
    · split
      · rfl
      · exact ite_self _
    · exact ite_self _
  rw [hagain, hkept, OrderedMap.insert_of_get? hget, register_eq wellKeyed hpost]

end CreationStore

namespace ResourceGroup

open Resource

variable {σ : Type} [ChoiceSource σ] {group : ResourceGroup} {resource first later again : Resource}
  {operation : ResourceOperation σ} {operations : List (ResourceOperation σ)}

/-- What a set-up makes of a resource, it makes of the resource it has made. -/
theorem setUp_setUp (wellKeyed : resource.creations.WellKeyed) (withRows : Bool) :
    group.setUp (group.setUp resource withRows) withRows = group.setUp resource withRows := by
  have hparams : (group.setUp (group.setUp resource withRows) withRows).params =
      (group.setUp resource withRows).params := by
    unfold setUp
    dsimp only
    split
    · exact params_initParams_congr _ _ rfl rfl rfl rfl
    · rfl
  have hcreations : (group.setUp (group.setUp resource withRows) withRows).creations =
      (group.setUp resource withRows).creations := by
    have hchain : group.resolveCreation (group.setUp resource withRows) =
        group.resolveCreation resource :=
      resolveCreation_congr ⟨rfl, rfl, rfl⟩
    change ((group.setUp resource withRows).creations.register
      (group.resolveCreation (group.setUp resource withRows)).chain).1 = _
    rw [hchain]
    exact CreationStore.register_register wellKeyed rfl
  calc group.setUp (group.setUp resource withRows) withRows
      = { group.setUp resource withRows with
          params := (group.setUp (group.setUp resource withRows) withRows).params
          creations := (group.setUp (group.setUp resource withRows) withRows).creations } := rfl
    _ = group.setUp resource withRows := by rw [hparams, hcreations]

/-- A set-up that follows on a set-up is not refused, and does nothing. -/
theorem init_setUp (hsome : resource.calls ≠ [])
    (hhandled : ∀ call ∈ resource.calls, call.verb ∈ Verb.handled)
    (wellKeyed : resource.creations.WellKeyed) (withRows : Bool) :
    group.init (group.setUp resource withRows) withRows =
      (group.setUp resource withRows, none) := by
  have hsome' : (group.setUp resource withRows).calls ≠ [] := hsome
  have hhandled' : ∀ call ∈ (group.setUp resource withRows).calls, call.verb ∈ Verb.handled :=
    hhandled
  rw [init_of_known hsome' hhandled' withRows (.inr rfl), setUp_setUp wellKeyed]

/-! ## What no operation changes -/

/-- What has lasted of a resource at a later moment: its position, mode and verbs, and of the
chains what a store keeps. -/
structure Lasting (group : ResourceGroup) (resource later : Resource) : Prop where
  bare_eq : later.bare = resource.bare
  inventory_eq : later.inventory = group.inventoryOf later
  wellKeyed : later.creations.WellKeyed
  kept : resource.creations.KeptIn later.creations

theorem Lasting.trans {between : Resource} (lasting : group.Lasting resource between)
    (lasting' : group.Lasting between later) : group.Lasting resource later :=
  ⟨lasting'.bare_eq.trans lasting.bare_eq, lasting'.inventory_eq, lasting'.wellKeyed,
    lasting.kept.trans lasting'.kept⟩

/-- The chains last through every operation. -/
theorem keptIn_step (group : ResourceGroup) (operation : ResourceOperation σ)
    (wellKeyed : resource.creations.WellKeyed) :
    (group.step resource operation).creations.WellKeyed ∧
      resource.creations.KeptIn (group.step resource operation).creations := by
  by_cases hchains : ∃ chains, operation = .chains chains
  · obtain ⟨chains, rfl⟩ := hchains
    have keeps := stepCreations_keeps wellKeyed group chains
    exact ⟨keeps.wellKeyed, keeps.kept⟩
  · rw [group.creations_step resource (not_exists.mp hchains)]
    exact ⟨wellKeyed, .refl _⟩

section

variable (hsome : resource.calls ≠ [])
  (hhandled : ∀ call ∈ resource.calls, call.verb ∈ Verb.handled)
  (hknown : resource.inventory = group.inventoryOf resource)
  (wellKeyed : resource.creations.WellKeyed)
include hsome hhandled hknown wellKeyed

theorem lasting_step (operation : ResourceOperation σ) :
    group.Lasting resource (group.step resource operation) := by
  have hbare := group.bare_step resource operation
  obtain ⟨wellKeyed', kept⟩ := group.keptIn_step operation wellKeyed
  have hinventory : (group.step resource operation).inventory = group.inventoryOf resource := by
    by_cases hsetUp : operation.IsSetUp
    · obtain ⟨withRows, rfl⟩ := hsetUp
      rw [step_init, init_of_known hsome hhandled withRows (.inr hknown)]
      rfl
    · rw [inventory_step hsetUp, hknown]
  have same := samePosition_of_bare hbare
  exact ⟨hbare, hinventory.trans (inventoryOf_congr same).symm, wellKeyed', kept⟩

theorem lasting_run (operations : List (ResourceOperation σ)) :
    group.Lasting resource (group.run resource operations) := by
  induction operations using List.reverseRecOn with
  | nil => exact ⟨rfl, hknown, wellKeyed, .refl _⟩
  | append_singleton before operation ih =>
      have hcalls := (samePosition_of_bare ih.bare_eq).calls_eq
      rw [run_append]
      exact ih.trans (lasting_step (hcalls ▸ hsome) (hcalls ▸ hhandled) ih.inventory_eq
        ih.wellKeyed operation)

end

/-! ## Another set-up -/

/-- What another set-up of the resource `later` leaves, `again`, where `first` is what its first
set-up left and `initial` the chain of POST calls that was resolved then. -/
structure Renewed (first : Resource) (initial : CreationChain) (later again : Resource) : Prop where
  inventory_eq : again.inventory = later.inventory
  ancestors_eq : again.ancestors = later.ancestors
  templates_eq : again.templates = first.templates
  /-- No visit and no chain is counted. -/
  untried : ∀ template ∈ again.templates.values,
    template.visits = 0 ∧ template.size = template.verbs.length ∧ template.sizeAssured = false
  params_eq : again.params = first.params
  no_additional : ∀ info ∈ again.params.values, info.isAdditional = false
  keys_eq : again.creations.chains.keys = later.creations.chains.keys
  others_kept : ∀ key, key ≠ initial.key →
    again.creations.chains.get? key = later.creations.chains.get? key
  /-- The chain at the key of the initial one stays if it has failed, and is renewed if not. -/
  initial_kept : ∃ old, later.creations.chains.get? initial.key = some old ∧
    again.creations.chains.get? initial.key = some (if old.isFailed then old else initial)
  postChain?_eq : again.creations.postChain? = again.creations.chains.get? initial.key

/-- Another set-up of what has lasted since a set-up renews it. -/
theorem renewed_setUp {withRows : Bool} (hfirst : group.setUp first withRows = first)
    (wellKeyed : first.creations.WellKeyed) (lasting : group.Lasting first later)
    (htokens : first.mode.usesTokens = true) :
    Renewed first (group.resolveCreation first).chain later (group.setUp later withRows) := by
  have same := samePosition_of_bare lasting.bare_eq
  have hmode := mode_of_bare lasting.bare_eq
  have htemplates : (group.setUp later withRows).templates = first.templates := by
    rw [← hfirst]
    exact templatesOf_congr same withRows
  have hparams : ∀ r : Resource, r.mode.usesTokens = true → (group.setUp r withRows).params =
      ({ r with inventory := group.inventoryOf r }).initParams.params := fun r hr => if_pos hr
  have hcreations : (group.setUp later withRows).creations =
      { chains := later.creations.chains.insert (group.resolveCreation first).chain.key
          (later.creations.keptFor (group.resolveCreation first).chain)
        lastPost := some (group.resolveCreation first).chain.key } := by
    have hchain : group.resolveCreation later = group.resolveCreation first :=
      resolveCreation_congr same
    rw [← CreationStore.register_eq lasting.wellKeyed rfl, ← hchain]
    rfl
  have hknown : (group.resolveCreation first).chain.key ∈ later.creations.chains.keys := by
    have hregistered := (wellKeyed.register (group.resolveCreation first).chain).2.2
    have hsame : (first.creations.register (group.resolveCreation first).chain).1 =
        first.creations :=
      congrArg Resource.creations hfirst
    rw [hsame] at hregistered
    exact lasting.kept.mem_keys hregistered
  constructor
  case inventory_eq => exact lasting.inventory_eq.symm
  case ancestors_eq => rfl
  case templates_eq => exact htemplates
  case untried =>
    intro template htemplate
    have hfresh := VerbInventory.fresh_of_mem_sampleSpace _ _ _ htemplate
    exact ⟨congrArg Template.visits hfresh, congrArg Template.size hfresh,
      congrArg Template.sizeAssured hfresh⟩
  case params_eq =>
    rw [← hfirst, hparams later (hmode ▸ htokens), hparams first htokens]
    exact params_initParams_congr _ _ same.path_eq same.calls_eq hmode (inventoryOf_congr same)
  case no_additional =>
    intro info hinfo
    rw [hparams later (hmode ▸ htokens)] at hinfo
    obtain ⟨entry, hentry, rfl⟩ := List.mem_map.mp hinfo
    exact isAdditional_initParams _ entry hentry
  case keys_eq =>
    rw [hcreations, OrderedMap.keys_insert, if_pos hknown]
  case others_kept =>
    intro key hkey
    rw [hcreations]
    exact OrderedMap.get?_insert_of_ne _ _ hkey
  case initial_kept =>
    obtain ⟨old, hold⟩ := OrderedMap.mem_keys_iff.mp hknown
    refine ⟨old, hold, ?_⟩
    rw [hcreations, OrderedMap.get?_insert_self]
    unfold CreationStore.keptFor
    rw [hold]
  case postChain?_eq =>
    rw [hcreations]
    rfl

end ResourceGroup

namespace Catalog

open ResourceGroup

variable {σ : Type} [ChoiceSource σ] {config : Config} {endpoints : List Endpoint}
  {catalog : Catalog} {resource : Resource}

/-- Whatever was done to a resource of a catalog, another set-up makes of it what the first one
did, and keeps the chains that have failed; one more changes nothing. -/
theorem renewal (hbuilt : ofEndpoints endpoints config = .ok catalog)
    (hresource : resource ∈ catalog.resources) (htokens : config.initMode.usesTokens = true)
    (operations : List (ResourceOperation σ)) :
    ∃ first initial again, FirstSetUp σ config catalog.resources resource first ∧
      first.creations.postChain? = some initial ∧
      catalog.resources.init (catalog.resources.run resource operations) config.withRows =
        (again, none) ∧
      Renewed first initial (catalog.resources.run resource operations) again ∧
      catalog.resources.init first config.withRows = (first, none) ∧
      catalog.resources.init again config.withRows = (again, none) := by
  obtain ⟨first, firstSetUp⟩ := exists_firstSetUp σ hbuilt hresource
  have same := Resource.samePosition_of_bare firstSetUp.bare_eq
  have hcalls : first.calls ≠ [] := same.calls_eq ▸ firstSetUp.calls_ne_nil
  have hhandled : ∀ call ∈ first.calls, call.verb ∈ Verb.handled :=
    same.calls_eq ▸ firstSetUp.handled
  have htokens' : first.mode.usesTokens = true := by
    rw [Resource.mode_of_bare firstSetUp.bare_eq, firstSetUp.mode_eq, htokens]
  have wellKeyed : first.creations.WellKeyed := by
    rw [firstSetUp.creations_eq]
    exact (CreationStore.wellKeyed_empty.register _).1
  have hfirst : catalog.resources.setUp first config.withRows = first := by
    rw [firstSetUp.first_eq]
    exact setUp_setUp CreationStore.wellKeyed_empty config.withRows
  have hinitial : first.creations.postChain? =
      some (catalog.resources.resolveCreation first).chain := by
    rw [firstSetUp.creations_eq, resolveCreation_congr same,
      CreationStore.register_eq CreationStore.wellKeyed_empty rfl]
    exact OrderedMap.get?_insert_self _ _ _
  -- what is done from the first set-up on begins with what completed it
  have lasting : catalog.resources.Lasting first (catalog.resources.run resource operations) := by
    have hrun := lasting_run hcalls hhandled firstSetUp.inventory_eq wellKeyed
      (config.completion ++ operations)
    rwa [run_append, firstSetUp.run_completion] at hrun
  have same' := Resource.samePosition_of_bare lasting.bare_eq
  have hcalls' : (catalog.resources.run resource operations).calls ≠ [] :=
    same'.calls_eq ▸ hcalls
  have hhandled' : ∀ call ∈ (catalog.resources.run resource operations).calls,
      call.verb ∈ Verb.handled :=
    same'.calls_eq ▸ hhandled
  refine ⟨first, _, catalog.resources.setUp (catalog.resources.run resource operations)
    config.withRows, firstSetUp, hinitial, ?_, renewed_setUp hfirst wellKeyed lasting htokens',
    ?_, ?_⟩
  · exact init_of_known hcalls' hhandled' config.withRows (.inr lasting.inventory_eq)
  · calc catalog.resources.init first config.withRows
        = catalog.resources.init (catalog.resources.setUp first config.withRows)
            config.withRows := by rw [hfirst]
      _ = (catalog.resources.setUp first config.withRows, none) :=
          init_setUp hcalls hhandled wellKeyed config.withRows
      _ = (first, none) := by rw [hfirst]
  · exact init_setUp hcalls' hhandled' lasting.wellKeyed config.withRows

/-- A shop that is selected from, whose chain fails and whose tables are confirmed, and that is
set up again. -/
theorem renewal_shop :
    ∃ catalog resource first initial again,
      ofEndpoints shopEndpoints .standard = .ok catalog ∧ resource ∈ catalog.resources ∧
      Config.standard.initMode.usesTokens = true ∧
      FirstSetUp Script .standard catalog.resources resource first ∧
      first.creations.postChain? = some initial ∧
      catalog.resources.init
          (catalog.resources.run resource
            ([.chains (.confirmFailure [{ verb := .post, path := "/shops" }]),
              .confirmTable "shops"] : List (ResourceOperation Script)))
          Config.standard.withRows =
        (again, none) ∧
      Renewed first initial
        (catalog.resources.run resource
          ([.chains (.confirmFailure [{ verb := .post, path := "/shops" }]),
            .confirmTable "shops"] : List (ResourceOperation Script)))
        again := by
  obtain ⟨catalog, resource, hbuilt, hresource, -, -⟩ := exists_shop
  have htokens : Config.standard.initMode.usesTokens = true := rfl
  obtain ⟨first, initial, again, firstSetUp, hinitial, hagain, renewed, -, -⟩ :=
    renewal hbuilt hresource htokens
      ([.chains (.confirmFailure [{ verb := .post, path := "/shops" }]),
        .confirmTable "shops"] : List (ResourceOperation Script))
  exact ⟨catalog, resource, first, initial, again, hbuilt, hresource, htokens, firstSetUp,
    hinitial, hagain, renewed⟩

end Catalog

end RestCatalog
