import Mathlib.Data.List.Chain
import RestCatalog.Proofs.Catalog.SetUp
import RestCatalog.Proofs.Creation.Store
import RestCatalog.Proofs.Resource.Closest

/-!
# How the chain of POST calls is resolved

Resolving a chain puts the closest creator in front of a POST, then the closest
creator of that one, until a POST needs nothing else or has no creator above it.
`CreatorLine` is this walk without its fuel: from a POST of some holder it lists the
creators in front of it and tells where, if anywhere, the creation stays unresolved.

* Every POST of a coherent group has such a line (`Coherent.exists_creatorLine`): each
  creator has fewer ancestors than the holder before it.
* The loop follows the line as long as it has more fuel than there are ancestors
  (`CreatorLine.resolveCreators_eq`), so its bound is never what ends it.
* Along the line each POST is the closest creator of the next one
  (`CreatorLine.isChain`), and its first POST decides how the chain is settled
  (`CreatorLine.head_spec`).

`ResolvedChain` puts these facts together, and `resolved_postChain` states them of every
resource of a catalog.
-/

namespace RestCatalog

namespace ResourceGroup

variable {group : ResourceGroup} {resource holder owner : Resource} {first post : Call}
  {outer : List Call} {unresolved : Option String}

/-- `outer` lies strictly above `inner`, which needs another resource, and no resource between
the two owns a POST. -/
structure ClosestCreator (group : ResourceGroup) (outer inner : Call) : Prop where
  above : outer.restPath.isAncestor inner.restPath = true
  needed : inner.restPath.needsDependency = true
  none_between : ∀ other ∈ group, other.path.isAncestor inner.restPath = true →
    outer.restPath.levels < other.path.levels → other.posts = []

/-- The creators in front of a POST of a holder, outermost first, and the path at which no
creator is found, if there is one. -/
inductive CreatorLine (group : ResourceGroup) :
    Resource → Call → List Call → Option String → Prop
  | settled {holder : Resource} {first : Call} (hneeds : first.restPath.needsDependency = false) :
      CreatorLine group holder first [] none
  | stuck {holder : Resource} {first : Call} (hneeds : first.restPath.needsDependency = true)
      (hnone : ∀ owner ∈ group.ancestorsOf holder, owner.posts = []) :
      CreatorLine group holder first [] (some first.path)
  | step {holder owner : Resource} {first creator : Call} {outer : List Call}
      {unresolved : Option String} (hneeds : first.restPath.needsDependency = true)
      (closest : group.ClosestPost holder owner creator)
      (line : CreatorLine group owner creator outer unresolved) :
      CreatorLine group holder first (outer ++ [creator]) unresolved

/-! ## Every POST has its line -/

theorem Coherent.exists_creatorLine (coherent : group.Coherent) (hholder : holder ∈ group)
    (first : Call) : ∃ outer unresolved, group.CreatorLine holder first outer unresolved := by
  -- the number of ancestors falls with every step outwards
  induction hcount : (group.ancestorsOf holder).length using Nat.strongRecOn
    generalizing holder first with
  | ind count ih =>
      cases hneeds : first.restPath.needsDependency with
      | false => exact ⟨[], none, .settled hneeds⟩
      | true =>
          cases hfirst : (group.ancestorsOf holder).findSome?
              fun ancestor => ancestor.posts.head? with
          | none =>
              refine ⟨[], some first.path, .stuck hneeds ?_⟩
              intro owner howner
              exact List.head?_eq_none_iff.mp (List.findSome?_eq_none_iff.mp hfirst owner howner)
          | some creator =>
              obtain ⟨owner, closest⟩ := (coherent.findSome?_eq_some_iff hholder).mp hfirst
              have hfewer := coherent.length_ancestorsOf_lt hholder closest.owner_mem
              have howner := coherent.owner_mem_group hholder closest
              obtain ⟨outer, unresolved, line⟩ := ih _ (hcount ▸ hfewer) howner creator rfl
              exact ⟨outer ++ [creator], unresolved, .step hneeds closest line⟩

/-- With more fuel than there are ancestors the loop follows the line to its end. -/
theorem CreatorLine.resolveCreators_eq (coherent : group.Coherent) (hresource : resource ∈ group)
    (line : group.CreatorLine holder first outer unresolved)
    (hholder : holder ∈ group.lineage resource) (hfirst : first.restPath = holder.path)
    {fuel : Nat} (hfuel : (group.ancestorsOf holder).length < fuel) (later : List Call) :
    group.resolveCreators resource fuel first later = ⟨outer ++ first :: later, unresolved⟩ := by
  induction line generalizing fuel later with
  | settled hneeds =>
      obtain ⟨fuel, rfl⟩ := Nat.exists_eq_succ_of_ne_zero (Nat.ne_zero_of_lt hfuel)
      unfold resolveCreators
      simp [hneeds]
  | stuck hneeds hnone =>
      obtain ⟨fuel, rfl⟩ := Nat.exists_eq_succ_of_ne_zero (Nat.ne_zero_of_lt hfuel)
      have hsearch := (coherent.closestAbove?_eq_none_iff hresource hholder).mpr hnone
      rw [hfirst] at hneeds
      unfold resolveCreators
      simp [hneeds, hfirst, hsearch]
  | @step holder owner first creator outer unresolved hneeds closest line ih =>
      obtain ⟨fuel, rfl⟩ := Nat.exists_eq_succ_of_ne_zero (Nat.ne_zero_of_lt hfuel)
      have hgroup := coherent.mem_group_of_lineage hresource hholder
      have hsearch := (coherent.closestAbove?_eq_some_iff hresource hholder).mpr ⟨owner, closest⟩
      have hfewer := coherent.length_ancestorsOf_lt hgroup closest.owner_mem
      have hlineage := coherent.owner_mem_lineage hresource hholder closest
      have hcreator := coherent.restPath_eq_of_closest hgroup closest
      rw [hfirst] at hneeds
      unfold resolveCreators
      simp only [hneeds, hfirst, hsearch, Bool.not_true, Bool.false_eq_true, if_false]
      rw [ih hlineage hcreator (by omega) (first :: later)]
      simp

/-! ## What the line says -/

section

variable (coherent : group.Coherent) (line : group.CreatorLine holder first outer unresolved)
include coherent line

/-- The creators are POSTs of ancestors of the holder. -/
theorem CreatorLine.mem_outer (hholder : holder ∈ group) (hpost : post ∈ outer) :
    ∃ owner ∈ group.ancestorsOf holder, post ∈ owner.posts := by
  induction line with
  | settled => cases hpost
  | stuck => cases hpost
  | @step holder owner first creator outer unresolved hneeds closest line ih =>
      rcases List.mem_append.mp hpost with hpost | hpost
      · obtain ⟨further, hfurther, hmem⟩ := ih (coherent.owner_mem_group hholder closest) hpost
        exact ⟨further, coherent.mem_ancestorsOf_of_lineage hholder
          (mem_lineage_of_mem_ancestorsOf closest.owner_mem) hfurther, hmem⟩
      · rw [List.mem_singleton.mp hpost]
        exact ⟨owner, closest.owner_mem, closest.post_mem⟩

/-- Each POST of the line is the closest creator of the next one. -/
theorem CreatorLine.isChain (hholder : holder ∈ group) (hfirst : first.restPath = holder.path) :
    (outer ++ [first]).IsChain group.ClosestCreator := by
  induction line with
  | settled => exact List.isChain_singleton _
  | stuck => exact List.isChain_singleton _
  | @step holder owner first creator outer unresolved hneeds closest line ih =>
      obtain ⟨howner, habove⟩ := (coherent.mem_ancestorsOf_iff hholder).mp closest.owner_mem
      have hcreator := coherent.restPath_eq_of_closest hholder closest
      rw [List.isChain_append]
      refine ⟨ih howner hcreator, List.isChain_singleton _, ?_⟩
      intro last hlast next hnext
      rw [List.getLast?_concat, Option.mem_def, Option.some.injEq] at hlast
      rw [List.head?_cons, Option.mem_def, Option.some.injEq] at hnext
      subst hlast hnext
      refine ⟨by rw [hfirst, hcreator]; exact habove, hneeds, ?_⟩
      intro other hother habove' hdeeper
      rw [hfirst] at habove'
      rw [hcreator] at hdeeper
      -- an owner between the two would be deeper than the deepest one
      by_contra howns
      have hle := closest.deepest other
        ((coherent.mem_ancestorsOf_iff hholder).mpr ⟨hother, habove'⟩) howns
      omega

/-- The first POST of the line settles it: nothing stays unresolved if it needs no other
resource, and otherwise its own path does, with no creator above it. -/
theorem CreatorLine.head_spec (hholder : holder ∈ group) (hfirst : first.restPath = holder.path) :
    ∃ head, (outer ++ [first]).head? = some head ∧
      (head.restPath.needsDependency = false → unresolved = none) ∧
      (head.restPath.needsDependency = true → unresolved = some head.path ∧
        ∀ other ∈ group, other.path.isAncestor head.restPath = true → other.posts = []) := by
  induction line with
  | @settled holder first hneeds =>
      refine ⟨first, rfl, fun _ => rfl, ?_⟩
      intro hneeds'
      rw [hneeds] at hneeds'
      cases hneeds'
  | @stuck holder first hneeds hnone =>
      refine ⟨first, rfl, ?_, ?_⟩
      · intro hneeds'
        rw [hneeds] at hneeds'
        cases hneeds'
      · refine fun _ => ⟨rfl, ?_⟩
        intro other hother habove
        rw [hfirst] at habove
        exact hnone other ((coherent.mem_ancestorsOf_iff hholder).mpr ⟨hother, habove⟩)
  | @step holder owner first creator outer unresolved hneeds closest line ih =>
      obtain ⟨head, hhead, hspec⟩ := ih (coherent.owner_mem_group hholder closest)
        (coherent.restPath_eq_of_closest hholder closest)
      refine ⟨head, ?_, hspec⟩
      rw [List.head?_append, hhead, Option.some_or]

end

/-! ## The POST that creates a resource -/

section

variable (coherent : group.Coherent) (hresource : resource ∈ group)
include coherent hresource

private theorem closestAbove?_own_path :
    group.closestAbove? resource resource.path [.post] = some post ↔
      ∃ owner, group.ClosestPost resource owner post :=
  coherent.closestAbove?_eq_some_iff hresource (mem_lineage_self group resource)

/-- The creator is the only own POST, or without one the closest POST above. -/
theorem Coherent.creatorOf?_eq_some_iff :
    group.creatorOf? resource = some post ↔
      resource.posts = [post] ∨
        resource.posts = [] ∧ ∃ owner, group.ClosestPost resource owner post := by
  unfold creatorOf?
  cases hposts : resource.posts with
  | nil =>
      dsimp only
      rw [closestAbove?_own_path coherent hresource]
      simp
  | cons own rest =>
      cases rest with
      | nil => simp
      | cons another rest => simp

/-- There is none if several own POSTs compete, or if there is no POST at all. -/
theorem Coherent.creatorOf?_eq_none_iff :
    group.creatorOf? resource = none ↔
      2 ≤ resource.posts.length ∨
        resource.posts = [] ∧ ∀ owner ∈ group.ancestorsOf resource, owner.posts = [] := by
  unfold creatorOf?
  cases hposts : resource.posts with
  | nil =>
      dsimp only
      rw [coherent.closestAbove?_eq_none_iff hresource (mem_lineage_self group resource)]
      simp
  | cons own rest =>
      cases rest with
      | nil => simp
      | cons another rest => simp

/-- The creator is a POST of the resource or of an ancestor. -/
theorem Coherent.holder_of_creatorOf? (hcreator : group.creatorOf? resource = some post) :
    ∃ holder ∈ group.lineage resource, post ∈ holder.posts := by
  rcases (coherent.creatorOf?_eq_some_iff hresource).mp hcreator with hown | ⟨-, owner, closest⟩
  · refine ⟨resource, mem_lineage_self group resource, ?_⟩
    rw [hown]
    exact List.mem_cons_self
  · exact ⟨owner, mem_lineage_of_mem_ancestorsOf closest.owner_mem, closest.post_mem⟩

/-- The chain of a resource is the line of its creator, and any bound on the loop that exceeds
the number of its ancestors leads to it. -/
theorem Coherent.exists_line_of_creatorOf? (hcreator : group.creatorOf? resource = some post) :
    ∃ holder ∈ group.lineage resource, ∃ outer unresolved, post ∈ holder.posts ∧
      group.CreatorLine holder post outer unresolved ∧
      group.resolveCreation resource = ⟨outer ++ [post], unresolved⟩ ∧
      ∀ fuel, resource.ancestors.length < fuel →
        group.resolveCreators resource fuel post [] = group.resolveCreation resource := by
  obtain ⟨holder, hholder, hpost⟩ := coherent.holder_of_creatorOf? hresource hcreator
  have hgroup := coherent.mem_group_of_lineage hresource hholder
  obtain ⟨outer, unresolved, line⟩ := coherent.exists_creatorLine hgroup post
  have hloop : ∀ fuel, resource.ancestors.length < fuel →
      group.resolveCreators resource fuel post [] = ⟨outer ++ [post], unresolved⟩ := by
    intro fuel hfuel
    have hancestors := coherent.length_ancestorsOf_le_of_lineage hresource hholder
    exact line.resolveCreators_eq coherent hresource hholder
      (coherent.restPath_eq_of_mem_posts hgroup hpost) (by omega) []
  have hresolution : group.resolveCreation resource = ⟨outer ++ [post], unresolved⟩ := by
    unfold resolveCreation
    rw [hcreator]
    exact hloop _ (Nat.lt_succ_self _)
  refine ⟨holder, hholder, outer, unresolved, hpost, line, hresolution, ?_⟩
  intro fuel hfuel
  rw [hresolution]
  exact hloop fuel hfuel

omit coherent hresource in
/-- Without a creator the chain is empty. -/
theorem steps_eq_nil_of_creatorOf? (hcreator : group.creatorOf? resource = none) :
    (group.resolveCreation resource).steps = [] := by
  unfold resolveCreation
  rw [hcreator]

end

/-! ## The resolved chain -/

/-- The chain of POST calls that creates a resource, with the calls it consists of. -/
structure ResolvedChain (group : ResourceGroup) (resource : Resource) (chain : CreationChain)
    (steps : List Call) : Prop where
  variant_eq : chain.variant = .post
  steps_eq : chain.steps = steps.map CreationStep.call
  /-- It ends with the only own POST, or with the closest one above if there is no own one. -/
  last_iff : ∀ post, steps.getLast? = some post ↔
    resource.posts = [post] ∨
      resource.posts = [] ∧ ∃ owner, group.ClosestPost resource owner post
  /-- It is empty if several own POSTs compete, or if there is no POST at all. -/
  empty_iff : steps = [] ↔
    2 ≤ resource.posts.length ∨
      resource.posts = [] ∧ ∀ owner ∈ group.ancestorsOf resource, owner.posts = []
  owned : ∀ post ∈ steps, ∃ owner ∈ group.lineage resource, post ∈ owner.posts
  /-- Each call is the closest creator of the next one. -/
  isChain : steps.IsChain group.ClosestCreator
  complete_iff : ∀ head, steps.head? = some head →
    (chain.status = .complete ↔ head.restPath.needsDependency = false)
  /-- A chain that begins with a call in need of another resource stops there for want of a
  creator. -/
  incomplete : ∀ head, steps.head? = some head → head.restPath.needsDependency = true →
    chain.status = .incomplete ∧ chain.unresolvedPath = some head.path ∧
      ∀ other ∈ group, other.path.isAncestor head.restPath = true → other.posts = []
  /-- A larger bound on the loop would not change the chain. -/
  unbounded : ∀ post fuel, group.creatorOf? resource = some post →
    resource.ancestors.length < fuel →
      (group.resolveCreators resource fuel post []).chain = chain

theorem Coherent.resolvedChain (coherent : group.Coherent) (hresource : resource ∈ group) :
    group.ResolvedChain resource (group.resolveCreation resource).chain
      (group.resolveCreation resource).steps := by
  cases hcreator : group.creatorOf? resource with
  | none =>
      have hsteps := steps_eq_nil_of_creatorOf? hcreator
      have hempty := (coherent.creatorOf?_eq_none_iff hresource).mp hcreator
      constructor
      case variant_eq => rfl
      case steps_eq => rfl
      case last_iff =>
        intro post
        rw [hsteps, ← coherent.creatorOf?_eq_some_iff hresource, hcreator]
        simp
      case empty_iff => exact ⟨fun _ => hempty, fun _ => hsteps⟩
      case isChain =>
        rw [hsteps]
        exact List.isChain_nil
      case unbounded =>
        intro post fuel hpost
        cases hcreator.symm.trans hpost
      all_goals simp [hsteps]
  | some post =>
      obtain ⟨holder, hholder, outer, unresolved, hpost, line, hresolution, hloop⟩ :=
        coherent.exists_line_of_creatorOf? hresource hcreator
      have hgroup := coherent.mem_group_of_lineage hresource hholder
      have hpath := coherent.restPath_eq_of_mem_posts hgroup hpost
      obtain ⟨first, hfirst, hsettled, hstuck⟩ := line.head_spec coherent hgroup hpath
      rw [hresolution] at hloop ⊢
      constructor
      case variant_eq => rfl
      case steps_eq => rfl
      case last_iff =>
        intro other
        rw [← coherent.creatorOf?_eq_some_iff hresource, hcreator]
        simp
      case empty_iff =>
        rw [← coherent.creatorOf?_eq_none_iff hresource, hcreator]
        simp
      case owned =>
        intro call hcall
        rcases List.mem_append.mp hcall with hcall | hcall
        · obtain ⟨owner, howner, hmem⟩ := line.mem_outer coherent hgroup hcall
          exact ⟨owner, mem_lineage_of_mem_ancestorsOf
            (coherent.mem_ancestorsOf_of_lineage hresource hholder howner), hmem⟩
        · rw [List.mem_singleton.mp hcall]
          exact ⟨holder, hholder, hpost⟩
      case isChain => exact line.isChain coherent hgroup hpath
      case complete_iff =>
        intro head hhead
        obtain rfl := Option.some.inj (hfirst.symm.trans hhead)
        unfold Resolution.chain
        cases hneeds : first.restPath.needsDependency with
        | false => simp [hsettled hneeds]
        | true => simp [(hstuck hneeds).1]
      case incomplete =>
        intro head hhead hneeds
        obtain rfl := Option.some.inj (hfirst.symm.trans hhead)
        obtain ⟨hunresolved, hnone⟩ := hstuck hneeds
        unfold Resolution.chain
        exact ⟨by simp [hunresolved], hunresolved, hnone⟩
      case unbounded =>
        intro other fuel hother hfuel
        obtain rfl := Option.some.inj (hcreator.symm.trans hother)
        rw [hloop fuel hfuel]

end ResourceGroup

namespace Catalog

variable {config : Config} {endpoints : List Endpoint} {catalog : Catalog} {resource : Resource}

/-- A resource of a catalog starts with one chain, the resolution of its creation. -/
theorem creations_eq (hbuilt : ofEndpoints endpoints config = .ok catalog)
    (hresource : resource ∈ catalog.resources) :
    let chain := (catalog.resources.resolveCreation resource).chain
    resource.creations =
      { chains := ({} : OrderedMap ChainKey CreationChain).insert chain.key chain
        lastPost := some chain.key } := by
  rw [creations_of_ofEndpoints hbuilt hresource, CreationStore.register_of_new rfl]
  rfl

theorem postChain?_eq_resolveCreation (hbuilt : ofEndpoints endpoints config = .ok catalog)
    (hresource : resource ∈ catalog.resources) :
    resource.creations.postChain? = some (catalog.resources.resolveCreation resource).chain := by
  unfold CreationStore.postChain?
  rw [creations_eq hbuilt hresource, Option.bind_some]
  exact OrderedMap.get?_insert_self _ _ _

/-- Every resource of a catalog with stable paths starts with the chain of its closest
creators. -/
theorem resolved_postChain (hbuilt : ofEndpoints endpoints config = .ok catalog)
    (hstable : ∀ endpoint ∈ endpoints, Path.Stable endpoint.path)
    (hresource : resource ∈ catalog.resources) :
    ∃ chain steps, resource.creations.postChain? = some chain ∧
      catalog.resources.ResolvedChain resource chain steps :=
  ⟨_, _, postChain?_eq_resolveCreation hbuilt hresource,
    (coherent_of_ofEndpoints hbuilt hstable).resolvedChain hresource⟩

/-- Two creators lie above an item: its shop is created first, since that is the closest creator
of the POST that creates the item. -/
theorem resolved_postChain_items :
    ∃ catalog resource chain, ofEndpoints nestedEndpoints .standard = .ok catalog ∧
      (∀ endpoint ∈ nestedEndpoints, Path.Stable endpoint.path) ∧
      resource ∈ catalog.resources ∧ resource.creations.postChain? = some chain ∧
      chain.status = .complete ∧
      catalog.resources.ResolvedChain resource chain [createShop, createItem] := by
  obtain ⟨catalog, resource, hbuilt, hresource, -, hresolution, -⟩ := exists_items
  have hstable : ∀ endpoint ∈ nestedEndpoints, Path.Stable endpoint.path := by decide +kernel
  obtain ⟨chain, steps, hchain, hresolved⟩ := resolved_postChain hbuilt hstable hresource
  have hgiven := postChain?_eq_resolveCreation hbuilt hresource
  rw [hresolution] at hgiven
  obtain rfl := Option.some.inj (hchain.symm.trans hgiven)
  have hsteps : steps = [createShop, createItem] :=
    (List.map_injective_iff.mpr fun a b hsame => CreationStep.call.inj hsame)
      hresolved.steps_eq.symm
  rw [hsteps] at hresolved
  exact ⟨catalog, resource, _, hbuilt, hstable, hresource, hchain, rfl, hresolved⟩

end Catalog

end RestCatalog
