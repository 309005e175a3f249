import RestCatalog.Proofs.Catalog.FirstSetUp
import RestCatalog.Proofs.Resource.Size

/-!
# How the sizes of templates grow

The size of a template is the number of its verbs, until the templates are sized while a
complete chain of POST calls is at hand.  That chain is then counted in, by all templates with a
POST at once, and no other chain ever is, whatever becomes of the chains later.

`countedChain?` tells which chain that is in a number of operations.  It reads only the chain
that is at hand when the templates are sized; the sizes follow from it and from nothing else
(`unvisited_run`, `size_of_get?`).  Since what was counted in first stays
(`sizeTemplates_sizeTemplates`), a longer run counts the same chain in (`countedChain?_append`),
and no size ever shrinks.  `Catalog.sizeHistory` says so of every resource of a catalog, from
its first set-up on.
-/

namespace RestCatalog

/-- A template without additions has the number of its verbs as its size, and with the calls of
a creation those too if it has a POST. -/
theorem Template.size_elim_sizedBy {start : Template} (hsize : start.size = start.verbs.length)
    (hopen : start.sizeAssured = false) (more : Option Nat) :
    (more.elim start fun more => start.sizedBy more).size =
        start.verbs.length + (if start.contains .post then more.getD 0 else 0) ∧
      (more.elim start fun more => start.sizedBy more).sizeAssured =
        (start.contains .post && more.isSome) := by
  cases more with
  | none => simp [hsize, hopen]
  | some more =>
      unfold sizedBy
      cases start.contains .post <;> simp [hsize, hopen]

theorem Template.size_le_elim_sizedBy (template : Template) (more : Option Nat) :
    template.size ≤ (more.elim template fun more => template.sizedBy more).size := by
  cases more with
  | none => exact Nat.le_refl _
  | some more =>
      change template.size ≤ (template.sizedBy more).size
      unfold sizedBy
      split
      · exact Nat.le_add_right _ _
      · exact Nat.le_refl _

theorem Resource.get?_sizeTemplates (more : Option Nat) (templates : Templates) (text : String) :
    (sizeTemplates more templates).get? text =
      (templates.get? text).map fun template =>
        more.elim template fun more => template.sizedBy more := by
  cases more with
  | none => exact Option.map_id'.symm
  | some more => exact OrderedMap.get?_mapValues _ _ _

namespace Resource

/-- The chain of POST calls at hand, if it is complete and has a step. -/
def countable? (resource : Resource) : Option CreationChain :=
  resource.creations.postChain?.filter fun chain => chain.isComplete && !chain.steps.isEmpty

/-- By how much a chain makes a template with a POST larger: an own POST is one of its verbs. -/
def growth (resource : Resource) (chain : CreationChain) : Nat :=
  chain.steps.length - if resource.inventory.post then 1 else 0

theorem creationSize?_eq_map (resource : Resource) :
    resource.creationSize? = resource.countable?.map resource.growth := by
  unfold creationSize? countable? growth
  cases resource.creations.postChain? with
  | none => rfl
  | some chain =>
      cases hsteps : chain.steps.isEmpty <;> cases hcomplete : chain.isComplete <;>
        simp [Option.filter, hsteps, hcomplete]

/-- A visit is not seen without the visits. -/
theorem Visited.unvisited_eq {σ : Type} {resource later : Resource} {query : TemplateQuery σ}
    {selected : Template} (visited : resource.Visited later query selected) :
    later.templates.unvisited = resource.templates.unvisited := by
  obtain ⟨pool, template, before, after, -, -, -, rfl, hsplit, rfl⟩ := visited
  unfold Templates.unvisited OrderedMap.mapValues
  rw [hsplit]
  simp only [List.map_append, List.map_cons]
  rfl

end Resource

namespace ResourceGroup

open Resource

variable {σ : Type} [ChoiceSource σ] {group : ResourceGroup} {resource first : Resource}
  {operation : ResourceOperation σ} {operations before after : List (ResourceOperation σ)}
  {chain : CreationChain}

/-- The chain that an operation may count in: sizing reads the one at hand. -/
def counted? (resource : Resource) : ResourceOperation σ → Option CreationChain
  | .chains .updateTemplateSize => resource.countable?
  | _ => none

/-- The chain that a number of operations counts in: the first that is complete and has a step
when the templates are sized. -/
def countedChain? (group : ResourceGroup) :
    Resource → List (ResourceOperation σ) → Option CreationChain
  | _, [] => none
  | resource, operation :: rest =>
    (counted? resource operation).or (countedChain? group (group.step resource operation) rest)

/-- A chain that is counted in stays the one. -/
theorem countedChain?_append (group : ResourceGroup) (resource : Resource)
    (before after : List (ResourceOperation σ)) :
    group.countedChain? resource (before ++ after) =
      (group.countedChain? resource before).or
        (group.countedChain? (group.run resource before) after) := by
  induction before generalizing resource with
  | nil => rfl
  | cons operation rest ih =>
      rw [List.cons_append, countedChain?, countedChain?, ih, Option.or_assoc]
      rfl

omit [ChoiceSource σ] in
theorem complete_of_counted? (hcounted : counted? resource operation = some chain) :
    chain.isComplete = true ∧ chain.steps ≠ [] := by
  unfold counted? at hcounted
  split at hcounted
  · obtain ⟨-, hcountable⟩ := Option.filter_eq_some_iff.mp hcounted
    simpa using hcountable
  · cases hcounted

theorem complete_of_countedChain?
    (hcounted : group.countedChain? resource operations = some chain) :
    chain.isComplete = true ∧ chain.steps ≠ [] := by
  induction operations generalizing resource with
  | nil => cases hcounted
  | cons operation rest ih =>
      rw [countedChain?, Option.or_eq_some_iff] at hcounted
      rcases hcounted with hnow | ⟨-, hlater⟩
      · exact complete_of_counted? hnow
      · exact ih hlater

/-! ## One operation, and many -/

/-- But for the visits, an operation counts its chain in and changes nothing else. -/
theorem unvisited_step (group : ResourceGroup) (hother : ¬ operation.IsSetUp)
    (wellNamed : resource.templates.WellNamed) :
    (group.step resource operation).templates.WellNamed ∧
      (group.step resource operation).templates.unvisited =
        sizeTemplates ((counted? resource operation).map resource.growth)
          resource.templates.unvisited := by
  by_cases hselect : ∃ query, operation = .select query
  · obtain ⟨query, rfl⟩ := hselect
    refine ⟨wellNamed_select wellNamed query, ?_⟩
    dsimp only [step]
    rcases select_cases wellNamed query with ⟨answer, -, hsame⟩ | ⟨later, selected, hsome, visited⟩
    · rw [hsame]
      rfl
    · rw [hsome]
      exact visited.unvisited_eq
  by_cases hsizing : operation = .chains .updateTemplateSize
  · subst hsizing
    have hstep : group.step resource (.chains .updateTemplateSize : ResourceOperation σ) =
        { resource with templates := sizeTemplates resource.creationSize? resource.templates } :=
      resource.updateTemplateSize_eq_sizeTemplates
    rw [hstep]
    refine ⟨wellNamed_sizeTemplates wellNamed _, ?_⟩
    dsimp only
    rw [unvisited_sizeTemplates, creationSize?_eq_map]
    rfl
  · have hnone : counted? resource operation = none := by
      unfold counted?
      split
      · exact absurd rfl hsizing
      · rfl
    rw [group.templates_step resource hother (not_exists.mp hselect) hsizing, hnone]
    exact ⟨wellNamed, rfl⟩

/-- But for the visits, the templates after a run are the ones before it, with the counted chain
counted in. -/
theorem unvisited_run (group : ResourceGroup)
    (hother : ∀ operation ∈ operations, ¬ operation.IsSetUp)
    (wellNamed : resource.templates.WellNamed) :
    (group.run resource operations).templates.WellNamed ∧
      (group.run resource operations).templates.unvisited =
        sizeTemplates ((group.countedChain? resource operations).map resource.growth)
          resource.templates.unvisited := by
  induction operations generalizing resource with
  | nil => exact ⟨wellNamed, rfl⟩
  | cons operation rest ih =>
      obtain ⟨hfirst, hrest⟩ := List.forall_mem_cons.mp hother
      obtain ⟨wellNamed', hstep⟩ := group.unvisited_step hfirst wellNamed
      obtain ⟨wellNamed'', hrun⟩ := ih hrest wellNamed'
      -- the verbs stay, so a chain counts for as much as before
      have hgrowth : (group.step resource operation).growth = resource.growth := by
        funext chain
        unfold growth
        rw [inventory_step hfirst]
      refine ⟨wellNamed'', ?_⟩
      rw [hstep, hgrowth, sizeTemplates_sizeTemplates] at hrun
      rw [countedChain?, Option.map_or]
      exact hrun

/-! ## The size of a template -/

section

variable {inventory : VerbInventory} {hasVariables withRows : Bool}
  (hlisted : first.templates = inventory.sampleSpace hasVariables withRows)
include hlisted

/-- The size of a template at any moment: its verbs, and if it has a POST what is counted in. -/
theorem size_of_get? (group : ResourceGroup)
    (hother : ∀ operation ∈ operations, ¬ operation.IsSetUp) {text : String} {template : Template}
    (hget : (group.run first operations).templates.get? text = some template) :
    template.size = template.verbs.length +
        (if template.contains .post then
          ((group.countedChain? first operations).map first.growth).getD 0 else 0) ∧
      template.sizeAssured =
        (template.contains .post && (group.countedChain? first operations).isSome) := by
  have wellNamed : first.templates.WellNamed := by
    rw [hlisted]
    exact VerbInventory.wellNamed_sampleSpace _ _ _
  obtain ⟨-, hrun⟩ := group.unvisited_run hother wellNamed
  have hunvisited : first.templates.unvisited = first.templates := by
    rw [hlisted]
    exact VerbInventory.unvisited_sampleSpace _ _ _
  rw [hunvisited] at hrun
  have hvisited : (group.run first operations).templates.unvisited.get? text =
      some (template.visited 0) := by
    unfold Templates.unvisited
    rw [OrderedMap.get?_mapValues, hget, Option.map_some]
  rw [hrun, get?_sizeTemplates] at hvisited
  obtain ⟨start, hstart, hsized⟩ := Option.map_eq_some_iff.mp hvisited
  have hfresh : start = .fresh start.verbs start.independent := by
    rw [hlisted] at hstart
    exact VerbInventory.fresh_of_mem_sampleSpace _ _ _
      (List.mem_map_of_mem (f := Prod.snd) (OrderedMap.mem_entries_of_get? hstart))
  have hfacts := Template.size_elim_sizedBy (congrArg Template.size hfresh)
    (congrArg Template.sizeAssured hfresh)
    ((group.countedChain? first operations).map first.growth)
  -- sizing keeps the text, and by that the verbs
  have hverbs : template.verbs = start.verbs := by
    have htext : template.text = start.text := by
      have hsame := congrArg Template.text hsized
      cases hcounted : (group.countedChain? first operations).map first.growth with
      | none =>
          rw [hcounted] at hsame
          exact hsame.symm
      | some more =>
          rw [hcounted] at hsame
          exact hsame.symm.trans (start.text_sizedBy more)
    unfold Template.verbs
    rw [htext]
  have hcontains : template.contains .post = start.contains .post := by
    unfold Template.contains
    rw [hverbs]
  rw [hsized, Option.isSome_map] at hfacts
  rw [hverbs, hcontains]
  exact hfacts

end

/-- The inventory knows whether a resource has a POST of its own. -/
theorem post_inventoryOf (group : ResourceGroup) (resource : Resource) :
    (group.inventoryOf resource).post = decide (resource.posts ≠ []) := by
  rw [Bool.eq_iff_iff]
  simp [inventoryOf, VerbInventory.entered, Resource.posts]

/-- How the sizes of the templates stand after the operations `before`, and how after the
operations `after` as well. -/
structure SizeHistory (group : ResourceGroup) (first : Resource)
    (before after : List (ResourceOperation σ)) : Prop where
  /-- Without a POST the size is the number of the verbs for ever. -/
  plain : ∀ template ∈ (group.run first before).templates.values,
    template.contains .post = false →
      template.size = template.verbs.length ∧ template.sizeAssured = false
  /-- With a POST it is so until a chain is counted in. -/
  uncounted : group.countedChain? first before = none →
    ∀ template ∈ (group.run first before).templates.values, template.contains .post = true →
      template.size = template.verbs.length ∧ template.sizeAssured = false
  /-- Then all have grown by the steps of that chain, but for an own POST, and it stays the one. -/
  counted : ∀ chain, group.countedChain? first before = some chain →
    chain.isComplete = true ∧ chain.steps ≠ [] ∧
      group.countedChain? first (before ++ after) = some chain ∧
      ∀ template ∈ (group.run first before).templates.values, template.contains .post = true →
        template.size =
            template.verbs.length + (chain.steps.length - if first.posts = [] then 0 else 1) ∧
          template.sizeAssured = true
  /-- No template is lost, and none shrinks. -/
  size_le : ∀ text template, (group.run first before).templates.get? text = some template →
    ∃ later, (group.run first (before ++ after)).templates.get? text = some later ∧
      template.size ≤ later.size

/-- The sizes of templates that were just listed. -/
theorem sizeHistory_of_listed {inventory : VerbInventory} {hasVariables withRows : Bool}
    (hlisted : first.templates = inventory.sampleSpace hasVariables withRows)
    (hpost : first.inventory.post = decide (first.posts ≠ []))
    (hother : ∀ operation ∈ before ++ after, ¬ operation.IsSetUp) :
    group.SizeHistory first before after := by
  obtain ⟨hbefore, hafter⟩ := List.forall_mem_append.mp hother
  have wellNamed : first.templates.WellNamed := by
    rw [hlisted]
    exact VerbInventory.wellNamed_sampleSpace _ _ _
  have hnow := (group.unvisited_run hbefore wellNamed).1
  have hsize : ∀ template ∈ (group.run first before).templates.values, _ :=
    fun template htemplate => group.size_of_get? hlisted hbefore (hnow.get?_text htemplate)
  constructor
  case plain =>
    intro template htemplate hplain
    simpa [hplain] using hsize template htemplate
  case uncounted =>
    intro hnone template htemplate _
    simpa [hnone] using hsize template htemplate
  case counted =>
    intro chain hchain
    obtain ⟨hcomplete, hsteps⟩ := complete_of_countedChain? hchain
    refine ⟨hcomplete, hsteps, ?_, ?_⟩
    · rw [countedChain?_append, hchain, Option.some_or]
    · intro template htemplate hwith
      have hgrowth : first.growth chain =
          chain.steps.length - if first.posts = [] then 0 else 1 := by
        unfold growth
        rw [hpost]
        by_cases hown : first.posts = [] <;> simp [hown]
      simpa [hchain, hwith, hgrowth] using hsize template htemplate
  case size_le =>
    intro text template hget
    obtain ⟨-, hrun⟩ := group.unvisited_run hafter hnow
    have hvisited := congrArg (fun templates => OrderedMap.get? templates text) hrun
    unfold Templates.unvisited at hvisited
    rw [← run_append, get?_sizeTemplates, OrderedMap.get?_mapValues, OrderedMap.get?_mapValues,
      hget, Option.map_some, Option.map_some] at hvisited
    obtain ⟨later, hlater, hsized⟩ := Option.map_eq_some_iff.mp hvisited
    refine ⟨later, hlater, ?_⟩
    calc template.size
        = (template.visited 0).size := rfl
      _ ≤ (later.visited 0).size := by
          rw [hsized]
          exact Template.size_le_elim_sizedBy _ _
      _ = later.size := rfl

end ResourceGroup

namespace Catalog

open ResourceGroup

variable {σ : Type} [ChoiceSource σ] {config : Config} {endpoints : List Endpoint}
  {catalog : Catalog} {resource : Resource}

/-- The sizes of the templates of a resource of a catalog, from its first set-up on.  The sizing
that completes a catalog is the first one that may count a chain in. -/
theorem sizeHistory (hbuilt : ofEndpoints endpoints config = .ok catalog)
    (hresource : resource ∈ catalog.resources) (before after : List (ResourceOperation σ))
    (hother : ∀ operation ∈ before ++ after, ¬ operation.IsSetUp) :
    ∃ first, FirstSetUp σ config catalog.resources resource first ∧
      catalog.resources.SizeHistory first (config.completion ++ before) after := by
  obtain ⟨first, firstSetUp⟩ := exists_firstSetUp σ hbuilt hresource
  have hpost : first.inventory.post = decide (first.posts ≠ []) := by
    rw [firstSetUp.inventory_eq]
    exact catalog.resources.post_inventoryOf first
  refine ⟨first, firstSetUp, sizeHistory_of_listed firstSetUp.templates_eq hpost ?_⟩
  rw [List.append_assoc]
  exact List.forall_mem_append.mpr
    ⟨fun operation hmem => Config.not_isSetUp_of_mem_completion hmem, hother⟩

/-- The failure of the chain that creates a shop does not change what it has been counted for. -/
theorem sizeHistory_shop :
    ∃ catalog resource first, ofEndpoints shopEndpoints .standard = .ok catalog ∧
      resource ∈ catalog.resources ∧
      FirstSetUp Script .standard catalog.resources resource first ∧
      catalog.resources.SizeHistory first
        (Config.standard.completion ++
          ([.chains (.confirmFailure [{ verb := .post, path := "/shops" }])] :
            List (ResourceOperation Script)))
        [.chains (.check [] [readShop]), .chains .updateTemplateSize] := by
  obtain ⟨catalog, resource, hbuilt, hresource, -, -⟩ := exists_shop
  obtain ⟨first, firstSetUp, history⟩ := sizeHistory hbuilt hresource
    ([.chains (.confirmFailure [{ verb := .post, path := "/shops" }])] :
      List (ResourceOperation Script))
    [.chains (.check [] [readShop]), .chains .updateTemplateSize]
    (by simp [ResourceOperation.IsSetUp])
  exact ⟨catalog, resource, first, hbuilt, hresource, firstSetUp, history⟩

end Catalog

end RestCatalog
