import Mathlib.Data.List.Forall2
import RestCatalog.Proofs.Creation.Resolution
import RestCatalog.Proofs.Path.Shape
import RestCatalog.Proofs.Resource.SetUp

/-!
# Groups in another order

Two groups are `Reordered` if they hold resources on the same paths, each with the calls of
its counterpart in some order.  The order of a group decides which of several equally deep
ancestors comes first, and the order of the calls which POST does.  So two searches for a
creator may end with different POSTs, but what is left of the difference is small:

* An ancestor in one group has its counterpart among the ancestors in the other
  (`Reordered.exists_ancestor`), so there is a POST above in both groups or in none.
* The first owners of a POST above two holders of one shape have one shape
  (`Reordered.shape_eq_of_closest`): they are the deepest of the ancestors with POSTs, and
  equally deep ancestors of one path have one shape.
* Whether a call needs another resource is a matter of its shape, so the walks from two such
  holders go on together and end together (`Reordered.parallel_lines`, by induction on one
  of the lines).

Resolutions in the two groups are therefore `Parallel`: they name calls on equivalent paths
and leave something unresolved in both groups or in none (`Reordered.parallel_resolveCreation`).
The inventory does not depend on the order at all (`Reordered.inventoryOf_eq`).
-/

namespace RestCatalog

/-! ## Counterparts -/

/-- A resource on the same path with the same calls in some order. -/
structure Resource.Counterpart (resource other : Resource) : Prop where
  path_eq : resource.path = other.path
  calls_perm : resource.calls.Perm other.calls

theorem Resource.Counterpart.posts_perm {resource other : Resource}
    (counterpart : resource.Counterpart other) : resource.posts.Perm other.posts :=
  counterpart.calls_perm.filter _

/-! ## Running in parallel -/

/-- Two calls on paths of one shape. -/
def Call.Parallel (call other : Call) : Prop :=
  call.restPath.isEquivalent other.restPath = true

/-- Resolutions by calls on paths of one shape that are settled alike. -/
structure Resolution.Parallel (resolution other : Resolution) : Prop where
  steps : List.Forall₂ Call.Parallel resolution.steps other.steps
  isSome_unresolved : resolution.unresolved.isSome = other.unresolved.isSome

/-- Two calls on paths of one shape, or the same insertion. -/
def CreationStep.Parallel : CreationStep → CreationStep → Prop
  | .call step, .call other => step.Parallel other
  | .insertion step, .insertion other => step = other
  | _, _ => False

/-- Chains that are settled alike, with steps on paths of one shape, one for one. -/
structure CreationChain.Parallel (chain other : CreationChain) : Prop where
  status_eq : chain.status = other.status
  steps : List.Forall₂ CreationStep.Parallel chain.steps other.steps

theorem Resolution.Parallel.chain {resolution other : Resolution}
    (parallel : resolution.Parallel other) : resolution.chain.Parallel other.chain where
  status_eq := by
    unfold Resolution.chain
    rw [parallel.isSome_unresolved]
  steps := by
    unfold Resolution.chain
    rw [List.forall₂_map_left_iff, List.forall₂_map_right_iff]
    exact parallel.steps.imp fun _ _ hcalls => hcalls

namespace ResourceGroup

variable {group others : ResourceGroup} {resource other holder holder' owner owner' : Resource}
  {first first' post post' : Call} {outer outer' : List Call} {unresolved unresolved' : Option String}

/-- Two coherent groups in which every resource has its counterpart in the other one. -/
structure Reordered (group others : ResourceGroup) : Prop where
  coherent : group.Coherent
  coherent' : others.Coherent
  forth : ∀ resource ∈ group, ∃ other ∈ others, resource.Counterpart other
  back : ∀ other ∈ others, ∃ resource ∈ group, other.Counterpart resource

namespace Reordered

variable (reordered : Reordered group others)
include reordered

theorem symm : Reordered others group where
  coherent := reordered.coherent'
  coherent' := reordered.coherent
  forth := reordered.back
  back := reordered.forth

/-- Resources on one path are counterparts. -/
theorem counterpart (hresource : resource ∈ group) (hother : other ∈ others)
    (hpath : resource.path = other.path) : resource.Counterpart other := by
  obtain ⟨found, hfound, counterpart⟩ := reordered.forth resource hresource
  have hsame : found = other :=
    reordered.coherent'.eq_of_path_eq hfound hother (counterpart.path_eq.symm.trans hpath)
  exact hsame ▸ counterpart

theorem perm_paths : (group.map Resource.path).Perm (others.map Resource.path) := by
  have hsubset : ∀ {group others : ResourceGroup}, Reordered group others →
      ∀ path ∈ group.map Resource.path, path ∈ others.map Resource.path := by
    intro group others reordered path hpath
    obtain ⟨resource, hresource, rfl⟩ := List.mem_map.mp hpath
    obtain ⟨other, hother, counterpart⟩ := reordered.forth resource hresource
    rw [counterpart.path_eq]
    exact List.mem_map_of_mem hother
  rw [List.perm_ext_iff_of_nodup reordered.coherent.nodup_paths reordered.coherent'.nodup_paths]
  exact fun path => ⟨hsubset reordered path, hsubset reordered.symm path⟩

/-! ## The closest POSTs above -/

section

variable (hholder : holder ∈ group) (hholder' : holder' ∈ others)
  (hshape : holder.path.shape = holder'.path.shape)
include hholder hholder' hshape

/-- The ancestors have their counterparts among the ancestors. -/
theorem exists_ancestor (howner : owner ∈ group.ancestorsOf holder) :
    ∃ owner' ∈ others.ancestorsOf holder', owner.Counterpart owner' := by
  obtain ⟨hgroup, habove⟩ := (reordered.coherent.mem_ancestorsOf_iff hholder).mp howner
  obtain ⟨owner', howner', counterpart⟩ := reordered.forth owner hgroup
  refine ⟨owner', (reordered.coherent'.mem_ancestorsOf_iff hholder').mpr ⟨howner', ?_⟩, counterpart⟩
  rw [← counterpart.path_eq, ← Path.isAncestor_congr rfl hshape]
  exact habove

theorem no_posts_above (hnone : ∀ owner' ∈ others.ancestorsOf holder', owner'.posts = []) :
    ∀ owner ∈ group.ancestorsOf holder, owner.posts = [] := by
  intro owner howner
  obtain ⟨owner', howner', counterpart⟩ := reordered.exists_ancestor hholder hholder' hshape howner
  rw [← List.perm_nil, ← hnone owner' howner']
  exact counterpart.posts_perm

theorem levels_le_of_closest (closest : group.ClosestPost holder owner post)
    (closest' : others.ClosestPost holder' owner' post') :
    owner.path.levels ≤ owner'.path.levels := by
  obtain ⟨found, hfound, counterpart⟩ :=
    reordered.exists_ancestor hholder hholder' hshape closest.owner_mem
  have hposts : found.posts ≠ [] :=
    List.ne_nil_of_mem (counterpart.posts_perm.subset closest.post_mem)
  rw [counterpart.path_eq]
  exact closest'.deepest found hfound hposts

theorem shape_eq_of_closest (closest : group.ClosestPost holder owner post)
    (closest' : others.ClosestPost holder' owner' post') : owner.path.shape = owner'.path.shape := by
  have hlevels : owner.path.levels = owner'.path.levels :=
    (reordered.levels_le_of_closest hholder hholder' hshape closest closest').antisymm
      (reordered.symm.levels_le_of_closest hholder' hholder hshape.symm closest' closest)
  have habove := ((reordered.coherent.mem_ancestorsOf_iff hholder).mp closest.owner_mem).2
  have habove' := ((reordered.coherent'.mem_ancestorsOf_iff hholder').mp closest'.owner_mem).2
  rw [← Path.isAncestor_congr rfl hshape] at habove'
  exact Path.shape_eq_of_levels_eq habove habove' hlevels

end

/-! ## Lines of creators -/

/-- From POSTs of one shape the walks go on together and end together. -/
theorem parallel_lines (line : group.CreatorLine holder first outer unresolved)
    (line' : others.CreatorLine holder' first' outer' unresolved') (hholder : holder ∈ group)
    (hholder' : holder' ∈ others) (hshape : holder.path.shape = holder'.path.shape)
    (hfirst : first.restPath = holder.path) (hfirst' : first'.restPath = holder'.path) :
    List.Forall₂ Call.Parallel outer outer' ∧ unresolved.isSome = unresolved'.isSome := by
  induction line generalizing holder' first' outer' unresolved' with
  | @settled holder first hneeds =>
      rw [hfirst, Path.needsDependency_congr hshape, ← hfirst'] at hneeds
      cases line' with
      | settled => exact ⟨.nil, rfl⟩
      | stuck hneeds' => exact absurd hneeds' (by simp [hneeds])
      | step hneeds' => exact absurd hneeds' (by simp [hneeds])
  | @stuck holder first hneeds hnone =>
      rw [hfirst, Path.needsDependency_congr hshape, ← hfirst'] at hneeds
      cases line' with
      | settled hneeds' => exact absurd hneeds (by simp [hneeds'])
      | stuck => exact ⟨.nil, rfl⟩
      | @step _ owner' _ _ _ _ hneeds' closest' line' =>
          have hnone' := reordered.symm.no_posts_above hholder' hholder hshape.symm hnone owner'
            closest'.owner_mem
          exact absurd hnone' (List.ne_nil_of_mem closest'.post_mem)
  | @step holder owner first creator outer unresolved hneeds closest line ih =>
      rw [hfirst, Path.needsDependency_congr hshape, ← hfirst'] at hneeds
      cases line' with
      | settled hneeds' => exact absurd hneeds (by simp [hneeds'])
      | stuck hneeds' hnone' =>
          have hnone := reordered.no_posts_above hholder hholder' hshape hnone' owner
            closest.owner_mem
          exact absurd hnone (List.ne_nil_of_mem closest.post_mem)
      | @step _ owner' _ creator' outer' _ hneeds' closest' line' =>
          have howners := reordered.shape_eq_of_closest hholder hholder' hshape closest closest'
          have hcreator := reordered.coherent.restPath_eq_of_closest hholder closest
          have hcreator' := reordered.coherent'.restPath_eq_of_closest hholder' closest'
          obtain ⟨houter, hsettled⟩ := ih line' (reordered.coherent.owner_mem_group hholder closest)
            (reordered.coherent'.owner_mem_group hholder' closest') howners hcreator hcreator'
          have hparallel : creator.Parallel creator' := by
            unfold Call.Parallel
            rw [hcreator, hcreator', Path.isEquivalent_iff]
            exact howners
          exact ⟨List.rel_append houter (.cons hparallel .nil), hsettled⟩

/-! ## Resolutions -/

section

variable (hresource : resource ∈ group) (hother : other ∈ others)
  (hpath : resource.path = other.path)
include hresource hother hpath

theorem creatorOf?_eq_none (hnone : others.creatorOf? other = none) :
    group.creatorOf? resource = none := by
  have hposts := (reordered.counterpart hresource hother hpath).posts_perm
  rw [reordered.coherent'.creatorOf?_eq_none_iff hother, ← hposts.length_eq] at hnone
  rw [reordered.coherent.creatorOf?_eq_none_iff hresource]
  rcases hnone with hseveral | ⟨hnoPost, habove⟩
  · exact .inl hseveral
  · refine .inr ⟨?_, ?_⟩
    · rw [← List.perm_nil, ← hnoPost]
      exact hposts
    · exact reordered.no_posts_above hresource hother (congrArg Path.shape hpath) habove

/-- Whatever is chosen to create the resource lies on paths of one shape. -/
theorem shape_eq_of_creatorOf? (hcreator : group.creatorOf? resource = some post)
    (hcreator' : others.creatorOf? other = some post') :
    post.restPath.shape = post'.restPath.shape := by
  have hposts := (reordered.counterpart hresource hother hpath).posts_perm
  rw [reordered.coherent.creatorOf?_eq_some_iff hresource] at hcreator
  rw [reordered.coherent'.creatorOf?_eq_some_iff hother] at hcreator'
  rcases hcreator with hown | ⟨hnoPost, owner, closest⟩
  · rcases hcreator' with hown' | ⟨hnoPost', -⟩
    · rw [reordered.coherent.restPath_eq_of_mem_posts hresource (by simp [hown]),
        reordered.coherent'.restPath_eq_of_mem_posts hother (by simp [hown']), hpath]
    · rw [hown, hnoPost', List.perm_nil] at hposts
      cases hposts
  · rcases hcreator' with hown' | ⟨-, owner', closest'⟩
    · rw [hnoPost, hown', List.nil_perm] at hposts
      cases hposts
    · rw [reordered.coherent.restPath_eq_of_closest hresource closest,
        reordered.coherent'.restPath_eq_of_closest hother closest']
      exact reordered.shape_eq_of_closest hresource hother (congrArg Path.shape hpath) closest
        closest'

theorem parallel_resolveCreation :
    (group.resolveCreation resource).Parallel (others.resolveCreation other) := by
  cases hcreator : group.creatorOf? resource with
  | none =>
      have hcreator' := reordered.symm.creatorOf?_eq_none hother hresource hpath.symm hcreator
      unfold resolveCreation Resource.name
      rw [hcreator, hcreator', hpath]
      exact ⟨.nil, rfl⟩
  | some post =>
      obtain ⟨post', hcreator'⟩ : ∃ post', others.creatorOf? other = some post' := by
        rw [← Option.ne_none_iff_exists']
        intro hnone
        rw [reordered.creatorOf?_eq_none hresource hother hpath hnone] at hcreator
        cases hcreator
      have hshape := reordered.shape_eq_of_creatorOf? hresource hother hpath hcreator hcreator'
      obtain ⟨holder, hholder, outer, unresolved, hpost, line, hresolution, -⟩ :=
        reordered.coherent.exists_line_of_creatorOf? hresource hcreator
      obtain ⟨holder', hholder', outer', unresolved', hpost', line', hresolution', -⟩ :=
        reordered.coherent'.exists_line_of_creatorOf? hother hcreator'
      have hgroup := reordered.coherent.mem_group_of_lineage hresource hholder
      have hgroup' := reordered.coherent'.mem_group_of_lineage hother hholder'
      have hfirst := reordered.coherent.restPath_eq_of_mem_posts hgroup hpost
      have hfirst' := reordered.coherent'.restPath_eq_of_mem_posts hgroup' hpost'
      have hholders : holder.path.shape = holder'.path.shape := by
        rw [← hfirst, ← hfirst']
        exact hshape
      obtain ⟨houter, hsettled⟩ := reordered.parallel_lines line line' hgroup hgroup' hholders
        hfirst hfirst'
      rw [hresolution, hresolution']
      exact ⟨List.rel_append houter (.cons (Path.isEquivalent_iff.mpr hshape) .nil), hsettled⟩

/-! ## Ancestors and inventories -/

theorem mem_ancestorPaths {path : Path}
    (habove : path ∈ (group.ancestorsOf resource).map Resource.path) :
    path ∈ (others.ancestorsOf other).map Resource.path := by
  obtain ⟨owner, howner, rfl⟩ := List.mem_map.mp habove
  obtain ⟨owner', howner', counterpart⟩ :=
    reordered.exists_ancestor hresource hother (congrArg Path.shape hpath) howner
  rw [counterpart.path_eq]
  exact List.mem_map_of_mem howner'

private theorem postAbove_of_postAbove
    (habove : ((group.ancestorCalls resource).any fun call => call.verb = .post) = true) :
    ((others.ancestorCalls other).any fun call => call.verb = .post) = true := by
  rw [List.any_eq_true] at habove ⊢
  obtain ⟨call, hcall, hverb⟩ := habove
  obtain ⟨owner, howner, hmem⟩ := List.mem_flatMap.mp hcall
  obtain ⟨owner', howner', counterpart⟩ :=
    reordered.exists_ancestor hresource hother (congrArg Path.shape hpath) howner
  exact ⟨call, List.mem_flatMap.mpr ⟨owner', howner', counterpart.calls_perm.subset hmem⟩, hverb⟩

theorem inventoryOf_eq : group.inventoryOf resource = others.inventoryOf other := by
  have hown := VerbInventory.entered_perm {} (reordered.counterpart hresource hother hpath).calls_perm
  have habove : ((group.ancestorCalls resource).any fun call => call.verb = .post) =
      ((others.ancestorCalls other).any fun call => call.verb = .post) := by
    rw [Bool.eq_iff_iff]
    exact ⟨reordered.postAbove_of_postAbove hresource hother hpath,
      reordered.symm.postAbove_of_postAbove hother hresource hpath.symm⟩
  unfold inventoryOf
  rw [hown, habove]

end

end Reordered

end ResourceGroup

end RestCatalog
