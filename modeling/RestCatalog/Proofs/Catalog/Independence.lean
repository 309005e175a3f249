import RestCatalog.Proofs.Catalog.Templates
import RestCatalog.Proofs.Path.Variables

/-!
# When a resource is independent

`Resource.isIndependent` reads what three passes have left behind: the templates, the chains
and the tables.  On a resource of a catalog little of it has to be looked at.

* The templates need nothing else exactly if the path has no variables and no POST stands
  beside another verb (`forall_independent_iff`).
* On a path without variables the chain of POST calls is complete.  Its creator lies on a path
  without variables itself, whatever POSTs there are to choose from, and so needs nothing
  (`unresolved_eq_none`); without a creator there is nothing to do.
* Hence the chain never decides: what is left to ask for are the tables of parameters.

The calls of a resource are made on a path that may differ from its own; but not in whether
it has variables (`hasVariables_restPath_eq`), so no path has to be stable here.
-/

namespace RestCatalog

namespace ResourceGroup

variable {group : ResourceGroup} {resource : Resource} {first post : Call}

/-- A creation that begins where nothing else is needed is resolved at once. -/
theorem unresolved_resolveCreators (hneeds : first.restPath.needsDependency = false)
    (fuel : Nat) (later : List Call) :
    (group.resolveCreators resource (fuel + 1) first later).unresolved = none := by
  unfold resolveCreators
  rw [if_pos (by simp [hneeds])]

/-- The creator of a resource is one of its calls or of those above. -/
theorem mem_of_creatorOf? (hcreator : group.creatorOf? resource = some post) :
    post ∈ resource.calls ∨ post ∈ group.ancestorCalls resource := by
  unfold creatorOf? at hcreator
  split at hcreator
  case h_1 =>
    unfold closestAbove? sameOrAncestor? at hcreator
    rw [if_pos rfl] at hcreator
    have hdeepest := (mem_deepestCalls.mp (List.mem_of_mem_head? hcreator)).1
    exact .inr (List.mem_filter.mp hdeepest).1
  case h_2 own hposts =>
    obtain rfl := Option.some.inj hcreator
    have hown : own ∈ resource.posts := by
      rw [hposts]
      exact List.mem_cons_self
    exact .inl (List.mem_filter.mp hown).1
  case h_3 => cases hcreator

end ResourceGroup

namespace Catalog

variable {config : Config} {endpoints : List Endpoint} {catalog : Catalog}
  {resource owner : Resource} {call : Call} {verb : Verb}

section

variable (hbuilt : ofEndpoints endpoints config = .ok catalog)
  (hresource : resource ∈ catalog.resources)
include hbuilt hresource

/-! ## The chain on a path without variables -/

/-- A resource has variables if the paths of its calls have. -/
theorem hasVariables_restPath_eq (hcall : call ∈ resource.calls) :
    call.restPath.hasVariables = resource.path.hasVariables := by
  obtain ⟨key, -, holds⟩ := holdsCallsOf_of_mem hbuilt hresource
  rw [holds.calls_eq, List.mem_filter, decide_eq_true_eq] at hcall
  rw [holds.path_eq, ← hcall.2]
  exact (Path.hasVariables_ofText_text call.path).symm

/-- Nothing above a path without variables has variables. -/
theorem hasVariables_ancestor (hvariables : resource.path.hasVariables = false)
    (howner : owner ∈ catalog.resources.ancestorsOf resource) :
    owner.path.hasVariables = false := by
  have habove := ((ResourceGroup.mem_ancestorsOf
    (ancestors_of_ofEndpoints hbuilt hresource)).mp howner).2
  cases hown : owner.path.hasVariables with
  | false => rfl
  | true =>
      rw [Path.hasVariables_of_isAncestor habove hown] at hvariables
      cases hvariables

theorem needsDependency_of_lineage (hvariables : resource.path.hasVariables = false)
    (hcall : call ∈ resource.calls ∨ call ∈ catalog.resources.ancestorCalls resource) :
    call.restPath.needsDependency = false := by
  apply Path.needsDependency_of_hasVariables_eq_false
  rcases hcall with hcall | hcall
  · rwa [hasVariables_restPath_eq hbuilt hresource hcall]
  · obtain ⟨owner, howner, hcall⟩ := List.mem_flatMap.mp hcall
    have hgroup := ResourceGroup.mem_of_mem_ancestorsOf howner
    rw [hasVariables_restPath_eq hbuilt hgroup hcall]
    exact hasVariables_ancestor hbuilt hresource hvariables howner

theorem unresolved_eq_none (hvariables : resource.path.hasVariables = false) :
    (catalog.resources.resolveCreation resource).unresolved = none := by
  unfold ResourceGroup.resolveCreation
  cases hcreator : catalog.resources.creatorOf? resource with
  | none => simp [hvariables]
  | some post =>
      have hneeds := needsDependency_of_lineage hbuilt hresource hvariables
        (ResourceGroup.mem_of_creatorOf? hcreator)
      exact ResourceGroup.unresolved_resolveCreators hneeds _ _

/-- On a path without variables the chain of POST calls is complete. -/
theorem status_eq_complete (hvariables : resource.path.hasVariables = false) :
    (catalog.resources.resolveCreation resource).chain.status = .complete := by
  unfold Resolution.chain
  simp [unresolved_eq_none hbuilt hresource hvariables]

/-! ## The templates -/

theorem handled_of_owns (howns : resource.owns verb = true) : verb ∈ Verb.handled := by
  obtain ⟨call, hcall, hverb⟩ := List.any_eq_true.mp howns
  exact of_decide_eq_true hverb ▸ (setUp_of_ofEndpoints hbuilt hresource).handled call hcall

theorem exists_owned_verb : ∃ verb ∈ Verb.handled, resource.owns verb = true := by
  obtain ⟨key, hkey, holds⟩ := holdsCallsOf_of_mem hbuilt hresource
  obtain ⟨call, hcall, hcallKey⟩ := List.mem_map.mp hkey
  have hmem : call ∈ resource.calls := by
    rw [holds.calls_eq]
    exact List.mem_filter.mpr ⟨hcall, decide_eq_true hcallKey⟩
  have howns : resource.owns call.verb = true :=
    List.any_eq_true.mpr ⟨call, hmem, decide_eq_true rfl⟩
  exact ⟨call.verb, handled_of_owns hbuilt hresource howns, howns⟩

/-- All templates need nothing else exactly if every combination that makes sense is one verb on
a path without variables. -/
private theorem forall_independent_iff_isSensible :
    (resource.templates.values.all fun template => template.independent) = true ↔
      ∀ verbs ∈ Template.order, Template.isSensible resource.owns
        (resource.isCreatable config.withRows) resource.path.hasVariables verbs = true →
          verbs.length = 1 ∧ resource.path.hasVariables = false := by
  obtain ⟨sized, hsized, hentries⟩ := exists_entries_templates hbuilt hresource
  unfold OrderedMap.values
  rw [hentries, List.map_map, List.all_map, List.all_eq_true]
  simp only [List.mem_filter, and_imp, Function.comp_apply, (hsized _).2]
  simp [Template.fresh, Template.isIndependent]

/-- So they do if the path has no variables and no POST stands beside another verb. -/
theorem forall_independent_iff :
    (resource.templates.values.all fun template => template.independent) = true ↔
      resource.path.hasVariables = false ∧
        ¬ (resource.owns .post = true ∧ ∃ verb, verb ≠ .post ∧ resource.owns verb = true) := by
  rw [forall_independent_iff_isSensible hbuilt hresource]
  constructor
  · intro hsingle
    obtain ⟨verb, hhandled, howns⟩ := exists_owned_verb hbuilt hresource
    refine ⟨(hsingle [verb] (Template.singleton_mem_order hhandled) howns).2, ?_⟩
    rintro ⟨hpost, other, hother, howns⟩
    have hhandled : other ∈ Verb.handled := handled_of_owns hbuilt hresource howns
    have hsensible : Template.isSensible resource.owns (resource.isCreatable config.withRows)
        resource.path.hasVariables [.post, other] = true := by
      rw [Template.isSensible_post_verb _ _ _ hother, howns]
      simp [Resource.isCreatable, hpost]
    have hlength := (hsingle _ (Template.pair_mem_order hhandled) hsensible).1
    cases hlength
  · rintro ⟨hvariables, halone⟩ verbs hverbs hsensible
    have hcreatable : resource.isCreatable config.withRows = resource.owns .post := by
      simp [Resource.isCreatable, hvariables]
    rw [hvariables, hcreatable] at hsensible
    exact ⟨Template.length_eq_one_of_isSensible halone hverbs hsensible, hvariables⟩

/-! ## Independence -/

/-- A resource is independent exactly if its path has no variables, no POST stands beside another
of its verbs, and no table is related to a parameter; and on a path without variables the chain of
POST calls is complete, whatever POSTs there are. -/
theorem isIndependent_iff_and_complete :
    (resource.isIndependent = true ↔
      resource.path.hasVariables = false ∧
        ¬ (resource.owns .post = true ∧ ∃ verb, verb ≠ .post ∧ resource.owns verb = true) ∧
          resource.tables.forParams.isEmpty = true) ∧
    (resource.path.hasVariables = false →
      ∃ chain, resource.creations.postChain? = some chain ∧ chain.variant = .post ∧
        chain.status = .complete) := by
  have hcomplete : resource.path.hasVariables = false →
      resource.creations.chains.values.any CreationChain.isComplete = true := by
    intro hvariables
    rw [creations_eq hbuilt hresource]
    simp [OrderedMap.values, OrderedMap.insert, OrderedMap.insertEntry,
      CreationChain.isComplete, status_eq_complete hbuilt hresource hvariables]
  constructor
  · unfold Resource.isIndependent
    rw [Bool.and_eq_true, forall_independent_iff hbuilt hresource, and_assoc]
    refine and_congr_right fun hvariables => and_congr_right fun _ => ?_
    rw [hcomplete hvariables, Bool.not_true, Bool.false_or]
  · intro hvariables
    exact ⟨_, postChain?_eq_resolveCreation hbuilt hresource, rfl,
      status_eq_complete hbuilt hresource hvariables⟩

end

/-- Two ways to create a shop. -/
def twofoldEndpoints : List Endpoint :=
  [{ method := "POST", path := "/shops" }, { method := "POST", path := "/shops/" }]

/-- A shop is independent, although it stays open which POST creates it. -/
theorem isIndependent_iff_and_complete_twofold :
    ∃ catalog resource, ofEndpoints twofoldEndpoints .standard = .ok catalog ∧
      resource ∈ catalog.resources ∧ 2 ≤ resource.posts.length ∧ resource.isIndependent = true ∧
      ∃ chain, resource.creations.postChain? = some chain ∧ chain.variant = .post ∧
        chain.status = .complete := by
  have hevaluated : (ofEndpoints twofoldEndpoints .standard).toOption.any (fun catalog =>
      (catalog.resourceAt? "/shops").any fun resource =>
        2 ≤ resource.posts.length && !resource.path.hasVariables &&
          resource.calls.all (fun call => call.verb = .post) &&
            resource.tables.forParams.isEmpty) = true := by
    decide +kernel
  obtain ⟨catalog, hbuilt, hfacts⟩ := exists_of_any hevaluated
  obtain ⟨resource, hfound, hfacts⟩ := (Option.any_eq_true _ _).mp hfacts
  simp only [Bool.and_eq_true, Bool.not_eq_true', decide_eq_true_eq, List.all_eq_true] at hfacts
  obtain ⟨⟨⟨hposts, hvariables⟩, hverbs⟩, hnone⟩ := hfacts
  have hresource := mem_resources_of_resourceAt? hfound
  obtain ⟨hiff, hchain⟩ := isIndependent_iff_and_complete hbuilt hresource
  refine ⟨catalog, resource, hbuilt, hresource, hposts, hiff.mpr ⟨hvariables, ?_, hnone⟩,
    hchain hvariables⟩
  rintro ⟨-, verb, hother, howns⟩
  obtain ⟨call, hcall, hverb⟩ := List.any_eq_true.mp howns
  exact hother ((of_decide_eq_true hverb).symm.trans (hverbs call hcall))

end Catalog

end RestCatalog
