import RestCatalog.Proofs.Creation.Resolution

/-!
# The history of the chains of a resource

The chains of a resource change by operations of six kinds: a set-up, the look-up of a
combination, the confirmation that a sequence of calls failed, the sizing of the
templates, and what is confirmed of one stored chain directly.  `stepCreations` performs
one of them and `runCreations` a whole history; an operation that refuses is a step like
any other.

`KeepsChains` relates a resource to a later state of it and carries the key of the POST
chain that was settled in between, if there is one.  It is reflexive and transitive, so
it holds along every history once it holds of each operation (`stepCreations_keeps`,
`runCreations_keeps`).  Which key an operation settles is read off its answer, in
`settledKey?`, and not off the store.

`SoundHistory` says what follows at any moment of a history and for the rest of it, and
`Catalog.soundHistory` that it holds of every resource of a catalog.
-/

namespace RestCatalog

/-- What can be done to the chains of a resource. -/
inductive CreationOperation where
  | init (withRows : Bool)
  /-- Looks the chain of these steps up or registers it. -/
  | check (insertions : List Insertion) (calls : List Call)
  /-- Confirms that a sequence of calls failed. -/
  | confirmFailure (calls : List Call)
  | updateTemplateSize
  /-- Confirms something about the chain at a key. -/
  | confirm (key : ChainKey) (confirmation : Confirmation)
deriving DecidableEq, Repr

inductive CreationAnswer where
  | done
  | refused (error : CatalogError)
  | chain (isNew : Bool) (chain : CreationChain)
  | failed (chain : Option CreationChain)
deriving DecidableEq, Repr

namespace ResourceGroup

variable {group : ResourceGroup} {resource between later : Resource}

/-- One operation on the chains of a resource in a group. -/
def stepCreations (group : ResourceGroup) (resource : Resource) :
    CreationOperation → Resource × CreationAnswer
  | .init withRows =>
    match group.init resource withRows with
    | (resource, none) => (resource, .done)
    | (resource, some error) => (resource, .refused error)
  | .check insertions calls =>
    match resource.creations.findOrRegister? insertions calls with
    | none => (resource, .refused .noSteps)
    | some (store, isNew, chain) => ({ resource with creations := store }, .chain isNew chain)
  | .confirmFailure calls =>
    let (store, chain) := resource.creations.confirmFailure calls
    ({ resource with creations := store }, .failed chain)
  | .updateTemplateSize => (resource.updateTemplateSize, .done)
  | .confirm key confirmation =>
    match resource.creations.confirmAt key confirmation with
    | .ok store => ({ resource with creations := store }, .done)
    | .error error => (resource, .refused (.chain error))

/-- A resource after a history of operations. -/
def runCreations (group : ResourceGroup) (resource : Resource)
    (operations : List CreationOperation) : Resource :=
  operations.foldl (fun resource operation => (group.stepCreations resource operation).1) resource

/-- The key of the POST chain that an operation with an answer has settled: a set-up that was
not refused settles the resolved chain, a look-up a new chain of POST calls, and a failure the
chain that it is confirmed of. -/
def settledKey? (group : ResourceGroup) (resource : Resource) :
    CreationOperation → CreationAnswer → Option ChainKey
  | .init _, .done => some (group.resolveCreation resource).chain.key
  | .check _ _, .chain true chain => if chain.variant = .post then some chain.key else none
  | .confirmFailure _, .failed chain => chain.map CreationChain.key
  | _, _ => none

/-- The key of the POST chain that was settled last in a history. -/
def lastSettled? (group : ResourceGroup) : Resource → List CreationOperation → Option ChainKey
  | _, [] => none
  | resource, operation :: rest =>
    let (next, answer) := group.stepCreations resource operation
    (lastSettled? group next rest).or (settledKey? group resource operation answer)

/-- What a later state of a resource has kept, where `settled` is the key of the POST chain
that was settled last in between. -/
structure KeepsChains (resource later : Resource) (settled : Option ChainKey) : Prop where
  samePosition : later.SamePosition resource
  wellKeyed : later.creations.WellKeyed
  kept : resource.creations.KeptIn later.creations
  lastPost_eq : later.creations.lastPost = settled.or resource.creations.lastPost

namespace KeepsChains

variable {settled settled' : Option ChainKey}

theorem refl (wellKeyed : resource.creations.WellKeyed) : KeepsChains resource resource none :=
  ⟨⟨rfl, rfl, rfl⟩, wellKeyed, .refl _, rfl⟩

theorem trans (keeps : KeepsChains resource between settled)
    (keeps' : KeepsChains between later settled') :
    KeepsChains resource later (settled'.or settled) := by
  refine ⟨keeps'.samePosition.trans keeps.samePosition, keeps'.wellKeyed,
    keeps.kept.trans keeps'.kept, ?_⟩
  rw [keeps'.lastPost_eq, keeps.lastPost_eq, Option.or_assoc]

/-- An operation that only exchanges the store. -/
theorem of_store {store : CreationStore} (wellKeyed : store.WellKeyed)
    (kept : resource.creations.KeptIn store)
    (hlast : store.lastPost = settled.or resource.creations.lastPost) :
    KeepsChains resource { resource with creations := store } settled :=
  ⟨⟨rfl, rfl, rfl⟩, wellKeyed, kept, hlast⟩

end KeepsChains

/-! ## Each operation keeps the chains -/

section

variable (wellKeyed : resource.creations.WellKeyed)
include wellKeyed

private theorem keeps_of_init {withRows : Bool}
    (hinit : group.init resource withRows = (later, none)) :
    KeepsChains resource later (some (group.resolveCreation resource).chain.key) := by
  obtain ⟨inventory, templates, params, hlater⟩ := init_eq group resource withRows
  simp only [hinit, Option.isSome_none, Bool.false_eq_true, if_false] at hlater
  subst hlater
  have hregister := wellKeyed.register (group.resolveCreation resource).chain
  refine ⟨⟨rfl, rfl, rfl⟩, hregister.1, hregister.2.1, ?_⟩
  exact wellKeyed.lastPost_register _

private theorem keeps_of_refused_init {withRows : Bool} {error : CatalogError}
    (hinit : group.init resource withRows = (later, some error)) :
    KeepsChains resource later none := by
  obtain ⟨inventory, templates, params, hlater⟩ := init_eq group resource withRows
  simp only [hinit, Option.isSome_some, if_true] at hlater
  subst hlater
  exact ⟨⟨rfl, rfl, rfl⟩, wellKeyed, .refl _, rfl⟩

private theorem keeps_of_check {insertions : List Insertion} {calls : List Call}
    {store : CreationStore} {isNew : Bool} {chain : CreationChain}
    (hfound : resource.creations.findOrRegister? insertions calls = some (store, isNew, chain)) :
    KeepsChains resource { resource with creations := store }
      (if isNew && chain.variant = .post then some chain.key else none) := by
  obtain ⟨combination, hcombination⟩ : ∃ combination,
      CreationStore.combination? insertions calls = some combination := by
    unfold CreationStore.findOrRegister? at hfound
    obtain ⟨combination, hcombination, -⟩ := Option.map_eq_some_iff.mp hfound
    exact ⟨combination, hcombination⟩
  cases hget : resource.creations.chains.get? combination.key with
  | some existing =>
      -- a chain that is found was settled before
      rw [CreationStore.findOrRegister?_known hcombination hget] at hfound
      cases hfound
      exact .of_store wellKeyed (.refl _) rfl
  | none =>
      rw [CreationStore.findOrRegister?_new hcombination hget] at hfound
      cases hfound
      have hregister := wellKeyed.register { combination with status := .complete }
      refine .of_store hregister.1 hregister.2.1 ?_
      rw [wellKeyed.lastPost_register]
      by_cases hpost : combination.variant = .post <;> simp [hpost]

private theorem keeps_of_confirmFailure {calls : List Call} {store : CreationStore}
    {chain : Option CreationChain}
    (hconfirm : resource.creations.confirmFailure calls = (store, chain)) :
    KeepsChains resource { resource with creations := store } (chain.map CreationChain.key) := by
  have hkeeps := wellKeyed.confirmFailure calls
  rw [hconfirm] at hkeeps
  refine .of_store hkeeps.1 hkeeps.2 ?_
  rcases wellKeyed.confirmFailure_eq calls with hnone | ⟨found, -, -, hfound⟩
  · cases hconfirm.symm.trans hnone
    rfl
  · cases hconfirm.symm.trans hfound
    exact congrArg some (CreationChain.key_congr rfl rfl)

/-- Every operation keeps the chains, and settles the one that its answer tells. -/
theorem stepCreations_keeps (group : ResourceGroup) (operation : CreationOperation) :
    KeepsChains resource (group.stepCreations resource operation).1
      (settledKey? group resource operation (group.stepCreations resource operation).2) := by
  cases operation with
  | init withRows =>
      unfold stepCreations
      cases hinit : group.init resource withRows with
      | mk later refused =>
          cases refused with
          | none => simpa only [hinit, settledKey?] using keeps_of_init wellKeyed hinit
          | some error => simpa only [hinit, settledKey?] using keeps_of_refused_init wellKeyed hinit
  | check insertions calls =>
      unfold stepCreations
      cases hfound : resource.creations.findOrRegister? insertions calls with
      | none => simpa only [hfound, settledKey?] using KeepsChains.refl wellKeyed
      | some result =>
          obtain ⟨store, isNew, chain⟩ := result
          have hkeeps := keeps_of_check wellKeyed hfound
          cases isNew with
          | true => simpa [hfound, settledKey?] using hkeeps
          | false => simpa [hfound, settledKey?] using hkeeps
  | confirmFailure calls =>
      cases hconfirm : resource.creations.confirmFailure calls with
      | mk store chain =>
          have hkeeps := keeps_of_confirmFailure wellKeyed hconfirm
          simpa only [stepCreations, hconfirm, settledKey?] using hkeeps
  | updateTemplateSize =>
      obtain ⟨templates, hsized⟩ := resource.updateTemplateSize_eq
      simp only [stepCreations, hsized]
      exact ⟨⟨rfl, rfl, rfl⟩, wellKeyed, .refl _, rfl⟩
  | confirm key confirmation =>
      unfold stepCreations
      cases hconfirm : resource.creations.confirmAt key confirmation with
      | error error => simpa only [hconfirm, settledKey?] using KeepsChains.refl wellKeyed
      | ok store =>
          obtain ⟨hwellKeyed, hkept, hlast⟩ := wellKeyed.confirmAt hconfirm
          have hkeeps : KeepsChains resource { resource with creations := store } none :=
            .of_store hwellKeyed hkept hlast
          simpa only [hconfirm, settledKey?] using hkeeps

theorem runCreations_keeps (group : ResourceGroup) (operations : List CreationOperation) :
    KeepsChains resource (group.runCreations resource operations)
      (group.lastSettled? resource operations) := by
  induction operations generalizing resource with
  | nil => exact .refl wellKeyed
  | cons operation rest ih =>
      have hstep := stepCreations_keeps wellKeyed group operation
      exact hstep.trans (ih hstep.wellKeyed)

end

theorem runCreations_append (group : ResourceGroup) (resource : Resource)
    (before after : List CreationOperation) :
    group.runCreations resource (before ++ after) =
      group.runCreations (group.runCreations resource before) after :=
  List.foldl_append

/-! ## Sound histories -/

/-- What holds of a resource after the operations `before`, and what of that still holds after
the operations `after`. -/
structure SoundHistory (group : ResourceGroup) (resource : Resource)
    (before after : List CreationOperation) : Prop where
  wellKeyed : (group.runCreations resource before).creations.WellKeyed
  /-- The keys stay in their order, and a failed chain stays at its key. -/
  kept : (group.runCreations resource before).creations.KeptIn
    (group.runCreations resource (before ++ after)).creations
  /-- The POST chain at hand is stored, and it is the one that was settled last; before anything
  is settled that is the resolved chain. -/
  postChain : ∃ chain, (group.runCreations resource before).creations.postChain? = some chain ∧
    chain.variant = .post ∧
    (group.runCreations resource before).creations.chains.get? chain.key = some chain ∧
    (group.lastSettled? resource before).getD (group.resolveCreation resource).chain.key = chain.key
  /-- A confirmation that is refused changes nothing. -/
  refused : ∀ key confirmation error,
    (group.stepCreations (group.runCreations resource before) (.confirm key confirmation)).2 =
        .refused error →
      (group.stepCreations (group.runCreations resource before) (.confirm key confirmation)).1 =
        group.runCreations resource before
  /-- A combination that is looked up is stored from then on. -/
  registered : ∀ insertions calls combination,
    CreationStore.combination? insertions calls = some combination →
      combination.key ∈ (group.stepCreations (group.runCreations resource before)
        (.check insertions calls)).1.creations.chains.keys
  /-- A combination of the participants of a stored chain is found ever after, in any order and
  with any repetitions, and looking it up changes nothing. -/
  known : ∀ (chain : CreationChain) insertions calls combination,
    chain.key ∈ (group.runCreations resource before).creations.chains.keys →
      CreationStore.combination? insertions calls = some combination →
        combination.variant = chain.variant →
          (∀ name, name ∈ combination.participants ↔ name ∈ chain.participants) →
            ∃ stored, (group.runCreations resource (before ++ after)).creations.chains.get?
                chain.key = some stored ∧
              group.stepCreations (group.runCreations resource (before ++ after))
                  (.check insertions calls) =
                (group.runCreations resource (before ++ after), .chain false stored)

/-- The histories of a resource are sound if it starts with the chain that is resolved for it. -/
theorem soundHistory_of_wellKeyed (wellKeyed : resource.creations.WellKeyed)
    (hlast : resource.creations.lastPost = some (group.resolveCreation resource).chain.key)
    (before after : List CreationOperation) : group.SoundHistory resource before after := by
  have now := runCreations_keeps wellKeyed group before
  have rest := runCreations_keeps now.wellKeyed group after
  rw [← runCreations_append] at rest
  constructor
  case wellKeyed => exact now.wellKeyed
  case kept => exact rest.kept
  case postChain =>
    have hsettled : (group.runCreations resource before).creations.lastPost =
        some ((group.lastSettled? resource before).getD
          (group.resolveCreation resource).chain.key) := by
      rw [now.lastPost_eq, hlast]
      cases group.lastSettled? resource before <;> rfl
    obtain ⟨chain, hchain, hkey, hvariant⟩ := now.wellKeyed.postChain?_eq hsettled
    refine ⟨chain, hchain, hvariant, ?_, hkey.symm⟩
    unfold CreationStore.postChain? at hchain
    rwa [hsettled, Option.bind_some, ← hkey] at hchain
  case refused =>
    intro key confirmation error hrefused
    unfold stepCreations at hrefused ⊢
    dsimp only at hrefused ⊢
    split at hrefused
    case h_1 store hconfirm => cases hrefused
    case h_2 => rfl
  case registered =>
    intro insertions calls combination hcombination
    obtain ⟨next, isNew, found, hfound, hkey⟩ :=
      CreationStore.mem_keys_of_findOrRegister? now.wellKeyed hcombination
    unfold stepCreations
    simp only [hfound]
    exact hkey
  case known =>
    intro chain insertions calls combination hkey hcombination hvariant hsame
    obtain ⟨stored, hget, hfound⟩ := CreationStore.findOrRegister?_of_participants
      (rest.kept.mem_keys hkey) hcombination hvariant hsame
    refine ⟨stored, hget, ?_⟩
    unfold stepCreations
    simp only [hfound]

end ResourceGroup

namespace Catalog

open ResourceGroup

variable {config : Config} {endpoints : List Endpoint} {catalog : Catalog} {resource : Resource}

/-- Every history of operations on a resource of a catalog is sound. -/
theorem soundHistory (hbuilt : ofEndpoints endpoints config = .ok catalog)
    (hresource : resource ∈ catalog.resources) (before after : List CreationOperation) :
    catalog.resources.SoundHistory resource before after := by
  have hregister := CreationStore.wellKeyed_empty.register
    (catalog.resources.resolveCreation resource).chain
  rw [← creations_of_ofEndpoints hbuilt hresource] at hregister
  have hlast : resource.creations.lastPost =
      some (catalog.resources.resolveCreation resource).chain.key := by
    rw [creations_eq hbuilt hresource]
  exact soundHistory_of_wellKeyed hregister.1 hlast before after

/-- A shop whose creation fails: the confirmation matches its chain, and that chain has failed
even after the shop is set up again and its POST is looked up. -/
theorem soundHistory_shop :
    ∃ catalog resource failed, ofEndpoints shopEndpoints .standard = .ok catalog ∧
      resource ∈ catalog.resources ∧
      catalog.resources.SoundHistory resource [.confirmFailure [createShop], .init false]
        [.check [] [createShop]] ∧
      failed.steps = [.call createShop] ∧ failed.status = .failed ∧
      (catalog.resources.stepCreations resource (.confirmFailure [createShop])).2 =
        .failed (some failed) ∧
      let later := catalog.resources.runCreations resource
        [.confirmFailure [createShop], .init false]
      later.creations.postChain? = some failed ∧
        (catalog.resources.stepCreations later (.check [] [createShop])).2 =
          .chain false failed := by
  have hevaluated : (ofEndpoints shopEndpoints .standard).toOption.any (fun catalog =>
      (catalog.resourceAt? readShop.path).any fun resource =>
        let later := catalog.resources.runCreations resource
          [.confirmFailure [createShop], .init false]
        later.creations.postChain?.any fun failed =>
          failed.steps = [.call createShop] && failed.status = .failed &&
            (catalog.resources.stepCreations resource (.confirmFailure [createShop])).2 =
              .failed (some failed) &&
            (catalog.resources.stepCreations later (.check [] [createShop])).2 =
              .chain false failed) = true := by
    decide +kernel
  obtain ⟨catalog, hbuilt, hany⟩ := exists_of_any hevaluated
  obtain ⟨resource, hfound, hchain⟩ := (Option.any_eq_true _ _).mp hany
  obtain ⟨failed, hpost, hfacts⟩ := (Option.any_eq_true _ _).mp hchain
  simp only [Bool.and_eq_true, decide_eq_true_eq] at hfacts
  obtain ⟨⟨⟨hsteps, hstatus⟩, hmatches⟩, hlooked⟩ := hfacts
  have hresource := mem_resources_of_resourceAt? hfound
  exact ⟨catalog, resource, failed, hbuilt, hresource, soundHistory hbuilt hresource _ _, hsteps,
    hstatus, hmatches, hpost, hlooked⟩

end Catalog

end RestCatalog
