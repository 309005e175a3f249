import RestCatalog.Proofs.Resource.Position
import RestCatalog.Proofs.Template.SampleSpace

/-!
# What setting a resource up leaves

The set-up of a resource enters the verbs of its calls and lists the templates that
they allow.  Both are functions of what the resource knows before: `inventoryOf` is the
inventory, and the templates are its sample space.

* Only a verb that resources do not handle is refused (`enterVerbs_eq_none_iff`).  The other
  refusal, for want of a template, never comes up: every verb that is owned makes a template
  of its own (`isEmpty_templatesOf`).
* `setUp` is what the set-up of a resource leaves, as one equation (`init_of_known`).  It holds
  of a new resource and of one whose verbs were entered before.
* Counting the calls of the creation in changes nothing but the sizes
  (`updateTemplateSize_eq_sizeTemplates`).
-/

namespace RestCatalog

namespace VerbInventory

variable {inventory : VerbInventory} {calls others : List Call} {call : Call} {verb : Verb}

/-- The inventory with the verbs of calls. -/
def entered (inventory : VerbInventory) (calls : List Call) : VerbInventory :=
  let has (verb : Verb) : Bool := calls.any fun call => call.verb = verb
  { post := inventory.post || has .post
    get := inventory.get || has .get
    put := inventory.put || has .put
    patch := inventory.patch || has .patch
    delete := inventory.delete || has .delete
    postInAncestry := inventory.postInAncestry }

@[simp]
theorem entered_nil (inventory : VerbInventory) : inventory.entered [] = inventory := by
  simp [entered]

/-- Entering calls is entering the first and then the others. -/
theorem add?_eq_some (inventory : VerbInventory) (calls : List Call)
    (hhandled : call.verb ∈ Verb.handled) :
    ∃ later, inventory.add? call.verb = some later ∧
      later.entered calls = inventory.entered (call :: calls) := by
  obtain ⟨verb, path, params, savesLocation, locationId⟩ := call
  cases verb <;> simp [Verb.handled, add?, entered] at hhandled ⊢

theorem add?_eq_none_iff : inventory.add? verb = none ↔ verb ∉ Verb.handled := by
  cases verb <;> simp [Verb.handled, add?]

/-- The order of the calls does not matter. -/
theorem entered_perm (inventory : VerbInventory) (hperm : calls.Perm others) :
    inventory.entered calls = inventory.entered others := by
  unfold entered
  simp only [hperm.any_eq]

theorem owns_entered (inventory : VerbInventory) (hhandled : call.verb ∈ Verb.handled)
    (hcall : call ∈ calls) :
    (inventory.entered calls).owns call.verb = true := by
  have hhas : (calls.any fun other => other.verb = call.verb) = true :=
    List.any_eq_true.mpr ⟨call, hcall, decide_eq_true rfl⟩
  generalize call.verb = verb at hhandled hhas
  cases verb <;> simp_all [Verb.handled, owns, entered]

end VerbInventory

namespace Resource

/-! ## Sizes -/

/-- Templates with the calls of the creation counted in, if they are known: the sizes of those
that contain a POST and do not count them yet. -/
def sizeTemplates (more : Option Nat) (templates : Templates) : Templates :=
  match more with
  | none => templates
  | some more => templates.mapValues fun template =>
      if template.contains .post && !template.sizeAssured then
        { template with size := template.size + more, sizeAssured := true }
      else template

/-- Nothing but sizes is changed. -/
theorem sizeTemplates_eq_mapValues (more : Option Nat) (templates : Templates) :
    ∃ sized : Template → Template, sizeTemplates more templates = templates.mapValues sized ∧
      ∀ template, (sized template).text = template.text ∧
        (sized template).independent = template.independent := by
  unfold sizeTemplates
  cases more with
  | none =>
      refine ⟨id, ?_, fun template => ⟨rfl, rfl⟩⟩
      simp [OrderedMap.mapValues]
  | some more =>
      refine ⟨_, rfl, ?_⟩
      intro template
      split <;> exact ⟨rfl, rfl⟩

theorem updateTemplateSize_eq_sizeTemplates (resource : Resource) :
    resource.updateTemplateSize =
      { resource with templates := sizeTemplates resource.creationSize? resource.templates } := by
  unfold updateTemplateSize sizeTemplates
  cases resource.creationSize? <;> rfl

/-- How many calls are counted in follows from how many there are and how they are settled. -/
theorem creationSize?_eq {resource : Resource} {resolution : Resolution}
    (hchain : resource.creations.postChain? = some resolution.chain) :
    resource.creationSize? =
      if resolution.steps.length = 0 || resolution.unresolved.isSome then none
      else some (resolution.steps.length - if resource.inventory.post then 1 else 0) := by
  unfold creationSize?
  rw [hchain]
  cases hunresolved : resolution.unresolved <;>
    simp [Resolution.chain, CreationChain.isComplete, hunresolved]

end Resource

namespace ResourceGroup

variable {group : ResourceGroup} {resource : Resource} {inventory : VerbInventory}
  {calls : List Call}

/-! ## Entering verbs -/

theorem enterVerbs_of_handled (hhandled : ∀ call ∈ calls, call.verb ∈ Verb.handled) :
    enterVerbs inventory calls = (inventory.entered calls, none) := by
  induction calls generalizing inventory with
  | nil => simp [enterVerbs]
  | cons call rest ih =>
      obtain ⟨later, hadd, hentered⟩ :=
        inventory.add?_eq_some rest (hhandled call List.mem_cons_self)
      unfold enterVerbs
      rw [hadd]
      dsimp only
      rw [ih fun other hother => hhandled other (List.mem_cons_of_mem _ hother), hentered]

/-- A verb is refused if and only if resources do not handle it. -/
theorem enterVerbs_eq_none_iff (inventory : VerbInventory) :
    (enterVerbs inventory calls).2 = none ↔ ∀ call ∈ calls, call.verb ∈ Verb.handled := by
  refine ⟨?_, fun hhandled => by rw [enterVerbs_of_handled hhandled]⟩
  induction calls generalizing inventory with
  | nil => simp
  | cons call rest ih =>
      unfold enterVerbs
      cases hadd : inventory.add? call.verb with
      | none => simp
      | some later =>
          have hcall : call.verb ∈ Verb.handled := by
            by_contra hcall
            rw [VerbInventory.add?_eq_none_iff.mpr hcall] at hadd
            cases hadd
          intro hrest
          exact List.forall_mem_cons.mpr ⟨hcall, ih later hrest⟩

/-- The verb that is refused is one of those that are not handled. -/
theorem exists_of_enterVerbs_eq_some {verb : Verb}
    (hrefused : (enterVerbs inventory calls).2 = some verb) :
    ∃ call ∈ calls, call.verb = verb ∧ verb ∉ Verb.handled := by
  induction calls generalizing inventory with
  | nil => cases hrefused
  | cons call rest ih =>
      unfold enterVerbs at hrefused
      cases hadd : inventory.add? call.verb with
      | none =>
          rw [hadd] at hrefused
          obtain rfl := Option.some.inj hrefused
          exact ⟨call, List.mem_cons_self, rfl, VerbInventory.add?_eq_none_iff.mp hadd⟩
      | some later =>
          rw [hadd] at hrefused
          obtain ⟨other, hother, hverb⟩ := ih hrefused
          exact ⟨other, List.mem_cons_of_mem _ hother, hverb⟩

/-! ## The set-up of a new resource -/

/-- The verbs that a resource owns, and whether there is a POST among its calls or above. -/
def inventoryOf (group : ResourceGroup) (resource : Resource) : VerbInventory :=
  let own := VerbInventory.entered {} resource.calls
  { own with
    postInAncestry := own.post || (group.ancestorCalls resource).any fun call => call.verb = .post }

/-- The templates that the verbs of a resource allow. -/
def templatesOf (group : ResourceGroup) (resource : Resource) (withRows : Bool) : Templates :=
  (group.inventoryOf resource).sampleSpace resource.path.hasVariables withRows

theorem isEmpty_templatesOf (group : ResourceGroup) (hsome : resource.calls ≠ [])
    (hhandled : ∀ call ∈ resource.calls, call.verb ∈ Verb.handled) (withRows : Bool) :
    (group.templatesOf resource withRows).isEmpty = false := by
  obtain ⟨call, hcall⟩ := List.exists_mem_of_ne_nil _ hsome
  have howns : (group.inventoryOf resource).owns call.verb = true := by
    have hown := VerbInventory.owns_entered {} (hhandled call hcall) hcall
    -- whether a POST is at hand does not enter into what is owned
    generalize call.verb = verb at hown ⊢
    cases verb <;> exact hown
  exact VerbInventory.isEmpty_sampleSpace _ _ _ (hhandled call hcall) howns

/-- Both depend on the position of the resource in its group only. -/
theorem inventoryOf_map {change : Resource → Resource} {other : Resource}
    (hchange : ∀ r, (change r).SamePosition r) (same : other.SamePosition resource) :
    inventoryOf (group.map change) other = group.inventoryOf resource := by
  unfold inventoryOf
  rw [same.calls_eq, ancestorCalls_map hchange same]

theorem templatesOf_map {change : Resource → Resource} {other : Resource}
    (hchange : ∀ r, (change r).SamePosition r) (same : other.SamePosition resource)
    (withRows : Bool) :
    templatesOf (group.map change) other withRows = group.templatesOf resource withRows := by
  unfold templatesOf
  rw [same.path_eq, inventoryOf_map hchange same]

theorem inventoryOf_congr {other : Resource} (same : other.SamePosition resource) :
    group.inventoryOf other = group.inventoryOf resource := by
  unfold inventoryOf ancestorCalls ancestorsOf
  rw [same.calls_eq, same.ancestors_eq]

theorem templatesOf_congr {other : Resource} (same : other.SamePosition resource)
    (withRows : Bool) : group.templatesOf other withRows = group.templatesOf resource withRows := by
  unfold templatesOf
  rw [same.path_eq, inventoryOf_congr same]

/-- What its set-up makes of a resource. -/
def setUp (group : ResourceGroup) (resource : Resource) (withRows : Bool) : Resource :=
  { resource with
    inventory := group.inventoryOf resource
    templates := group.templatesOf resource withRows
    params :=
      if resource.mode.usesTokens then
        ({ resource with inventory := group.inventoryOf resource }).initParams.params
      else resource.params
    creations := (resource.creations.register (group.resolveCreation resource).chain).1 }

section

variable (hsome : resource.calls ≠ []) (hhandled : ∀ call ∈ resource.calls, call.verb ∈ Verb.handled)
  (withRows : Bool)
include hsome hhandled

section

variable (hknown : resource.inventory = {} ∨ resource.inventory = group.inventoryOf resource)
include hknown

/-- Verbs that are entered already are entered again without a trace. -/
theorem initVerbs_of_known :
    group.initVerbs resource withRows =
      ({ resource with
          inventory := group.inventoryOf resource
          templates := group.templatesOf resource withRows }, none) := by
  have hentered : ({ resource.inventory.entered resource.calls with
      postInAncestry := (resource.inventory.entered resource.calls).post ||
        (group.ancestorCalls resource).any fun call => call.verb = .post } : VerbInventory) =
      group.inventoryOf resource := by
    rcases hknown with hnew | hagain
    · rw [hnew]
      rfl
    · rw [hagain]
      unfold inventoryOf
      simp [VerbInventory.entered]
  have htemplates := isEmpty_templatesOf group hsome hhandled withRows
  unfold templatesOf at htemplates
  unfold initVerbs templatesOf
  rw [enterVerbs_of_handled hhandled]
  simp only [hentered, htemplates, Bool.false_eq_true, if_false]

/-- The set-up of a resource whose verbs are all handled is not refused. -/
theorem init_of_known :
    group.init resource withRows = (group.setUp resource withRows, none) := by
  unfold init
  rw [initVerbs_of_known hsome hhandled withRows hknown]
  have hchain : group.resolveCreation
      { resource with
        inventory := group.inventoryOf resource
        templates := group.templatesOf resource withRows } = group.resolveCreation resource :=
    resolveCreation_congr ⟨rfl, rfl, rfl⟩
  dsimp only [initCreations]
  rw [hchain]
  unfold setUp
  cases htokens : resource.mode.usesTokens with
  | false => simp only [Bool.false_eq_true, if_false]
  | true =>
      obtain ⟨params, hparams⟩ := Resource.initParams_eq
        { resource with
          inventory := group.inventoryOf resource
          templates := group.templatesOf resource withRows
          creations := (resource.creations.register (group.resolveCreation resource).chain).1 }
      have hcollected := Resource.params_initParams_congr
        { resource with
          inventory := group.inventoryOf resource
          templates := group.templatesOf resource withRows
          creations := (resource.creations.register (group.resolveCreation resource).chain).1 }
        { resource with inventory := group.inventoryOf resource } rfl rfl rfl rfl
      rw [hparams] at hcollected
      simp only [if_true, hparams, ← hcollected]

end

/-- A new resource whose verbs are all handled is set up without a refusal. -/
theorem init_of_handled (hnew : resource.inventory = {}) :
    ∃ params, group.init resource withRows =
      ({ resource with
          inventory := group.inventoryOf resource
          templates := group.templatesOf resource withRows
          params
          creations := (resource.creations.register (group.resolveCreation resource).chain).1 },
        none) :=
  ⟨_, init_of_known hsome hhandled withRows (.inl hnew)⟩

end

/-- A new resource is only refused for a verb that is not handled, never for want of a
template. -/
theorem exists_of_init_eq_some {withRows : Bool} {error : CatalogError}
    (hnew : resource.inventory = {}) (hsome : resource.calls ≠ [])
    (hrefused : (group.init resource withRows).2 = some error) :
    ∃ call ∈ resource.calls, call.verb ∉ Verb.handled ∧
      error = .unhandledVerb call.verb resource.name := by
  cases hverbs : enterVerbs resource.inventory resource.calls with
  | mk inventory refused =>
      cases refused with
      | none =>
          have hhandled := (enterVerbs_eq_none_iff resource.inventory).mp (by rw [hverbs])
          obtain ⟨params, hinit⟩ := group.init_of_handled hsome hhandled withRows hnew
          rw [hinit] at hrefused
          cases hrefused
      | some verb =>
          obtain ⟨call, hcall, rfl, hverb⟩ :=
            exists_of_enterVerbs_eq_some (congrArg Prod.snd hverbs)
          unfold init initVerbs at hrefused
          rw [hverbs] at hrefused
          exact ⟨call, hcall, hverb, (Option.some.inj hrefused).symm⟩

/-- A set-up that is not refused has met handled verbs only. -/
theorem handled_of_init {withRows : Bool}
    (haccepted : (group.init resource withRows).2 = none) :
    ∀ call ∈ resource.calls, call.verb ∈ Verb.handled := by
  rw [← enterVerbs_eq_none_iff resource.inventory]
  unfold init initVerbs at haccepted
  cases hverbs : enterVerbs resource.inventory resource.calls with
  | mk inventory refused =>
      cases refused with
      | none => rfl
      | some verb => simp [hverbs] at haccepted

end ResourceGroup

end RestCatalog
