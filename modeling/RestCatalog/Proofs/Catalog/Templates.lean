import RestCatalog.Proofs.Catalog.SetUp
import RestCatalog.Proofs.Creation.Resolution

/-!
# The templates of a resource and its creation

The templates of a resource are listed before anything is known about its creation: whether a
POST is at hand is looked up among the calls of its ancestors.  The chain of POST calls is
resolved afterwards, by a search for the closest creator.  On every resource of a catalog the
two agree (`hasPostCreation_eq`), whatever its own POSTs are and however far the chain was
resolved: there are steps exactly if a creator was found (`steps_eq_nil_iff`), and without an
own POST one is found exactly if an ancestor has one (`closestAbove?_own_path_eq_none_iff`).

So the templates can be told from the chain, and `templateSpace` does: they are the
combinations of `Template.order` that make sense with it.
-/

namespace RestCatalog

namespace ResourceGroup

variable {group : ResourceGroup} {resource : Resource}

/-! ## Whether a chain has steps -/

/-- A chain that is being resolved keeps the creator that it started with. -/
theorem steps_resolveCreators_ne_nil (group : ResourceGroup) (resource : Resource) (fuel : Nat)
    (first : Call) (later : List Call) :
    (group.resolveCreators resource fuel first later).steps ≠ [] := by
  induction fuel generalizing first later with
  | zero => exact List.cons_ne_nil _ _
  | succ fuel ih =>
      unfold resolveCreators
      split
      · exact List.cons_ne_nil _ _
      · split
        · exact List.cons_ne_nil _ _
        · exact ih _ _

theorem steps_eq_nil_iff :
    (group.resolveCreation resource).steps = [] ↔ group.creatorOf? resource = none := by
  refine ⟨?_, steps_eq_nil_of_creatorOf?⟩
  intro hsteps
  unfold resolveCreation at hsteps
  cases hcreator : group.creatorOf? resource with
  | none => rfl
  | some post =>
      rw [hcreator] at hsteps
      exact absurd hsteps (steps_resolveCreators_ne_nil _ _ _ _ _)

/-- Above a resource the search for a POST fails only if there is none. -/
theorem closestAbove?_own_path_eq_none_iff :
    group.closestAbove? resource resource.path [.post] = none ↔
      ((group.ancestorCalls resource).any fun call => call.verb = .post) = false := by
  unfold closestAbove? sameOrAncestor?
  rw [if_pos rfl]
  dsimp only
  rw [List.head?_eq_none_iff, deepestCalls_eq_nil_iff, List.filter_eq_nil_iff, List.any_eq_false]
  simp only [List.contains_eq_mem, List.mem_singleton]

end ResourceGroup

namespace Resource

/-- Whether one of the calls of a resource has a verb. -/
def owns (resource : Resource) (verb : Verb) : Bool :=
  resource.calls.any fun call => call.verb = verb

/-- Whether something can create an instance of a resource: an own POST, or on a path with
variables the POST calls of its creation or the insertion of rows. -/
def isCreatable (resource : Resource) (withRows : Bool) : Bool :=
  resource.owns .post || (resource.path.hasVariables && (resource.hasPostCreation || withRows))

theorem posts_eq_nil_iff {resource : Resource} :
    resource.posts = [] ↔ resource.owns .post = false := by
  unfold posts owns
  rw [List.filter_eq_nil_iff, List.any_eq_false]

end Resource

namespace Catalog

variable {config : Config} {endpoints : List Endpoint} {catalog : Catalog} {resource : Resource}

/-! ## The resources of a catalog -/

section

variable (hbuilt : ofEndpoints endpoints config = .ok catalog)
  (hresource : resource ∈ catalog.resources)
include hbuilt hresource

/-- The inventory holds the verbs of the calls. -/
theorem owns_inventory : resource.inventory.owns = resource.owns := by
  have hsetUp := setUp_of_ofEndpoints hbuilt hresource
  funext verb
  rw [hsetUp.inventory_eq]
  by_cases hverb : verb ∈ Verb.handled
  · unfold ResourceGroup.inventoryOf VerbInventory.entered Resource.owns VerbInventory.owns
    cases verb <;> simp [Verb.handled] at hverb ⊢
  · have hnone : resource.owns verb = false := by
      unfold Resource.owns
      rw [List.any_eq_false]
      intro call hcall hsame
      rw [decide_eq_true_eq] at hsame
      exact hverb (hsame ▸ hsetUp.handled call hcall)
    rw [hnone]
    cases verb <;> simp [Verb.handled, VerbInventory.owns] at hverb ⊢

theorem postInAncestry_eq :
    resource.inventory.postInAncestry =
      (resource.owns .post ||
        (catalog.resources.ancestorCalls resource).any fun call => call.verb = .post) := by
  rw [(setUp_of_ofEndpoints hbuilt hresource).inventory_eq]
  unfold ResourceGroup.inventoryOf VerbInventory.entered Resource.owns
  simp

/-- The chain of POST calls and the inventory agree on whether a POST can create a resource. -/
theorem hasPostCreation_eq : resource.hasPostCreation = resource.inventory.postInAncestry := by
  have hinventory : resource.inventory.post = resource.owns .post :=
    congrFun (owns_inventory hbuilt hresource) .post
  have hchains : resource.hasPostCreation =
      (!(catalog.resources.resolveCreation resource).steps.isEmpty || resource.owns .post) := by
    unfold Resource.hasPostCreation
    rw [creations_eq hbuilt hresource, hinventory]
    simp [OrderedMap.values, OrderedMap.insert, OrderedMap.insertEntry, Resolution.chain]
  rw [hchains, postInAncestry_eq hbuilt hresource]
  cases howns : resource.owns .post with
  | true => simp
  | false =>
      have hcreator : catalog.resources.creatorOf? resource =
          catalog.resources.closestAbove? resource resource.path [.post] := by
        unfold ResourceGroup.creatorOf?
        rw [Resource.posts_eq_nil_iff.mpr howns]
      rw [Bool.or_false, Bool.false_or, Bool.eq_iff_iff, ← not_iff_not, Bool.not_eq_true,
        Bool.not_eq_true, Bool.not_eq_false', List.isEmpty_iff, ResourceGroup.steps_eq_nil_iff,
        hcreator]
      exact ResourceGroup.closestAbove?_own_path_eq_none_iff

theorem creatable_eq :
    resource.inventory.creatable resource.path.hasVariables config.withRows =
      resource.isCreatable config.withRows := by
  unfold VerbInventory.creatable Resource.isCreatable
  rw [hasPostCreation_eq hbuilt hresource, ← owns_inventory hbuilt hresource]
  rfl

/-- The templates are the combinations that make sense, but for their sizes. -/
theorem exists_entries_templates :
    ∃ sized : Template → Template,
      (∀ template, (sized template).text = template.text ∧
        (sized template).independent = template.independent) ∧
      resource.templates.entries =
        (Template.order.filter (Template.isSensible resource.owns
          (resource.isCreatable config.withRows) resource.path.hasVariables)).map fun verbs =>
            (Template.format verbs,
              sized (.fresh verbs (Template.isIndependent resource.path.hasVariables verbs))) := by
  have hsetUp := setUp_of_ofEndpoints hbuilt hresource
  obtain ⟨sized, hsized, hkept⟩ := Resource.sizeTemplates_eq_mapValues resource.creationSize?
    (catalog.resources.templatesOf resource config.withRows)
  refine ⟨sized, hkept, ?_⟩
  rw [hsetUp.templates_eq, hsized]
  unfold OrderedMap.mapValues ResourceGroup.templatesOf
  rw [← hsetUp.inventory_eq]
  dsimp only
  rw [VerbInventory.entries_sampleSpace, List.map_map, owns_inventory hbuilt hresource,
    creatable_eq hbuilt hresource]
  rfl

end

/-- The templates of a resource, told from its calls and from its creation. -/
structure TemplateSpace (resource : Resource) (withRows : Bool) : Prop where
  hasPostCreation_eq : resource.hasPostCreation = resource.inventory.postInAncestry
  keys_eq : resource.templates.keys =
    (Template.order.filter (Template.isSensible resource.owns (resource.isCreatable withRows)
      resource.path.hasVariables)).map Template.format
  nodup_keys : resource.templates.keys.Nodup
  text_eq : ∀ entry ∈ resource.templates.entries, entry.2.text = entry.1
  independent_iff : ∀ entry ∈ resource.templates.entries,
    entry.2.independent = true ↔ entry.2.verbs.length = 1 ∧ resource.path.hasVariables = false

theorem templateSpace (hbuilt : ofEndpoints endpoints config = .ok catalog)
    (hresource : resource ∈ catalog.resources) :
    TemplateSpace resource config.withRows := by
  obtain ⟨sized, hsized, hentries⟩ := exists_entries_templates hbuilt hresource
  have hkeys : resource.templates.keys =
      (Template.order.filter (Template.isSensible resource.owns
        (resource.isCreatable config.withRows) resource.path.hasVariables)).map
          Template.format := by
    unfold OrderedMap.keys
    rw [hentries, List.map_map]
    rfl
  constructor
  case hasPostCreation_eq => exact hasPostCreation_eq hbuilt hresource
  case keys_eq => exact hkeys
  case nodup_keys =>
    rw [hkeys]
    exact Template.nodup_map_format_order.sublist (List.filter_sublist.map _)
  case text_eq =>
    intro entry hentry
    rw [hentries] at hentry
    obtain ⟨verbs, -, rfl⟩ := List.mem_map.mp hentry
    exact (hsized _).1
  case independent_iff =>
    intro entry hentry
    rw [hentries] at hentry
    obtain ⟨verbs, hverbs, rfl⟩ := List.mem_map.mp hentry
    have hparse : (sized (.fresh verbs
        (Template.isIndependent resource.path.hasVariables verbs))).verbs = verbs := by
      unfold Template.verbs
      rw [(hsized _).1]
      have hsome := Template.ne_nil_of_mem_order (List.mem_filter.mp hverbs).1
      unfold Template.fresh
      rw [Template.parse_format hsome]
    dsimp only
    rw [hparse, (hsized _).2]
    simp [Template.fresh, Template.isIndependent]

theorem templateSpace_shop :
    ∃ catalog resource, ofEndpoints shopEndpoints .standard = .ok catalog ∧
      resource ∈ catalog.resources ∧ TemplateSpace resource Config.standard.withRows := by
  obtain ⟨catalog, resource, hbuilt, hresource, -, -⟩ := exists_shop
  exact ⟨catalog, resource, hbuilt, hresource, templateSpace hbuilt hresource⟩

end Catalog

end RestCatalog
