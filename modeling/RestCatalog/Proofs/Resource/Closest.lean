import Mathlib.Data.List.MinMax
import RestCatalog.Proofs.Resource.Ancestry
import RestCatalog.Resource.Closest

/-!
# The closest creator above a resource

`closestAbove?` collects the calls of all ancestors, keeps the POSTs on the deepest
paths and takes the first.  In a coherent group the ancestors are listed deepest
first and their calls lie on their paths, so all this is a walk along the list: the
first ancestor that owns a POST is the deepest one, and its first POST is the answer.

* `deepestCalls` is first described on its own: what it keeps
  (`mem_deepestCalls`), its first element in a list that descends
  (`head?_deepestCalls_of_descending`), and the case of a single deepest call
  (`deepestCalls_append_singleton`).
* `ClosestPost` names the owner together with its POST;
  `closestAbove?_eq_some_iff` and `closestAbove?_eq_none_iff` say that the search
  finds it exactly when it exists.
-/

namespace RestCatalog

/-! ## The deepest calls -/

/-- The depth that `deepestCalls` compares with is no less than any of the calls'. -/
private theorem le_foldl_levels (calls : List Call) (depth : Nat) :
    depth ≤ calls.foldl (fun depth call => max depth call.restPath.levels) depth ∧
      ∀ call ∈ calls, call.restPath.levels ≤
        calls.foldl (fun depth call => max depth call.restPath.levels) depth := by
  induction calls generalizing depth with
  | nil => simp
  | cons first rest ih =>
      obtain ⟨hdepth, hrest⟩ := ih (max depth first.restPath.levels)
      rw [List.foldl_cons]
      refine ⟨(Nat.le_max_left _ _).trans hdepth, ?_⟩
      intro call hcall
      rcases List.mem_cons.mp hcall with rfl | hcall
      · exact (Nat.le_max_right _ _).trans hdepth
      · exact hrest call hcall

/-- It is no more than any bound on them. -/
private theorem foldl_levels_le {calls : List Call} {depth bound : Nat} (hdepth : depth ≤ bound)
    (hcalls : ∀ call ∈ calls, call.restPath.levels ≤ bound) :
    calls.foldl (fun depth call => max depth call.restPath.levels) depth ≤ bound := by
  induction calls generalizing depth with
  | nil => exact hdepth
  | cons first rest ih =>
      rw [List.foldl_cons]
      exact ih (Nat.max_le.mpr ⟨hdepth, hcalls first List.mem_cons_self⟩)
        fun call hcall => hcalls call (List.mem_cons_of_mem _ hcall)

private theorem foldl_levels_eq {calls : List Call} {call : Call} (hcall : call ∈ calls)
    (hdeepest : ∀ other ∈ calls, other.restPath.levels ≤ call.restPath.levels) :
    calls.foldl (fun depth call => max depth call.restPath.levels) 0 = call.restPath.levels :=
  Nat.le_antisymm (foldl_levels_le (Nat.zero_le _) hdeepest) ((le_foldl_levels calls 0).2 call hcall)

/-- The deepest calls are those that no other call lies deeper than. -/
theorem mem_deepestCalls {calls : List Call} {call : Call} :
    call ∈ deepestCalls calls ↔
      call ∈ calls ∧ ∀ other ∈ calls, other.restPath.levels ≤ call.restPath.levels := by
  unfold deepestCalls
  simp only [List.mem_filter, decide_eq_true_eq]
  constructor
  · rintro ⟨hcall, hlevels⟩
    refine ⟨hcall, ?_⟩
    rw [hlevels]
    exact (le_foldl_levels calls 0).2
  · rintro ⟨hcall, hdeepest⟩
    exact ⟨hcall, (foldl_levels_eq hcall hdeepest).symm⟩

theorem deepestCalls_eq_nil_iff {calls : List Call} : deepestCalls calls = [] ↔ calls = [] := by
  constructor
  · intro hnil
    cases hdeepest : calls.argmax fun call => call.restPath.levels with
    | none => exact List.argmax_eq_none.mp hdeepest
    | some call =>
        have hle : ∀ other ∈ calls, other.restPath.levels ≤ call.restPath.levels :=
          fun other hother => List.le_of_mem_argmax (f := fun call : Call => call.restPath.levels)
            hother hdeepest
        have hmem := mem_deepestCalls.mpr ⟨List.argmax_mem hdeepest, hle⟩
        rw [hnil] at hmem
        cases hmem
  · rintro rfl
    rfl

/-- In a list that never gets deeper the first call is the first of the deepest ones. -/
theorem head?_deepestCalls_of_descending {calls : List Call}
    (hdescending : calls.Pairwise fun a b => b.restPath.levels ≤ a.restPath.levels) :
    (deepestCalls calls).head? = calls.head? := by
  cases calls with
  | nil => rfl
  | cons first rest =>
      have hdeepest : ∀ other ∈ first :: rest, other.restPath.levels ≤ first.restPath.levels := by
        intro other hother
        rcases List.mem_cons.mp hother with rfl | hother
        · exact Nat.le_refl _
        · exact (List.pairwise_cons.mp hdescending).1 other hother
      unfold deepestCalls
      rw [foldl_levels_eq List.mem_cons_self hdeepest]
      simp

/-- A call below all others is the only deepest one. -/
theorem deepestCalls_append_singleton {others : List Call} {call : Call}
    (hbelow : ∀ other ∈ others, other.restPath.levels < call.restPath.levels) :
    deepestCalls (others ++ [call]) = [call] := by
  have hdeepest : ∀ other ∈ others ++ [call], other.restPath.levels ≤ call.restPath.levels := by
    intro other hother
    rcases List.mem_append.mp hother with hother | hother
    · exact (hbelow other hother).le
    · rw [List.mem_singleton.mp hother]
  have hothers : others.filter (fun other => other.restPath.levels = call.restPath.levels) = [] := by
    rw [List.filter_eq_nil_iff]
    intro other hother
    simpa using (hbelow other hother).ne
  unfold deepestCalls
  rw [foldl_levels_eq (List.mem_append_right _ List.mem_cons_self) hdeepest, List.filter_append,
    hothers]
  simp

namespace ResourceGroup

variable {group : ResourceGroup} {resource holder owner : Resource} {post : Call}

/-! ## The first POST above a resource -/

/-- `post` is the first POST of the first of the deepest ancestors of `holder` that own one. -/
structure ClosestPost (group : ResourceGroup) (holder owner : Resource) (post : Call) : Prop where
  first_owner :
    ((group.ancestorsOf holder).find? fun ancestor => !ancestor.posts.isEmpty) = some owner
  deepest : ∀ other ∈ group.ancestorsOf holder, other.posts ≠ [] →
    other.path.levels ≤ owner.path.levels
  first_post : owner.posts.head? = some post

theorem ClosestPost.owner_mem (closest : group.ClosestPost holder owner post) :
    owner ∈ group.ancestorsOf holder :=
  List.mem_of_find?_eq_some closest.first_owner

theorem ClosestPost.post_mem (closest : group.ClosestPost holder owner post) :
    post ∈ owner.posts :=
  List.mem_of_head? closest.first_post

theorem mem_posts : post ∈ resource.posts ↔ post ∈ resource.calls ∧ post.verb = .post := by
  unfold Resource.posts
  rw [List.mem_filter, decide_eq_true_eq]

theorem contains_post (verb : Verb) : [Verb.post].contains verb = decide (verb = .post) := by
  cases verb <;> rfl

/-- The POSTs among the calls of the ancestors. -/
theorem filter_ancestorCalls (group : ResourceGroup) (holder : Resource) :
    ((group.ancestorCalls holder).filter fun call => [Verb.post].contains call.verb) =
      (group.ancestorsOf holder).flatMap Resource.posts := by
  unfold ancestorCalls
  rw [List.filter_flatMap]
  simp only [contains_post]
  rfl

namespace Coherent

variable (coherent : group.Coherent)
include coherent

theorem restPath_eq_of_mem_posts (howner : owner ∈ group) (hpost : post ∈ owner.posts) :
    post.restPath = owner.path :=
  coherent.restPath_eq owner howner post (mem_posts.mp hpost).1

theorem levels_lt_of_mem_ancestorPosts (hholder : holder ∈ group)
    (hpost : post ∈ (group.ancestorsOf holder).flatMap Resource.posts) :
    post.restPath.levels < holder.path.levels := by
  obtain ⟨ancestor, hancestor, hmem⟩ := List.mem_flatMap.mp hpost
  obtain ⟨howner, habove⟩ := (coherent.mem_ancestorsOf_iff hholder).mp hancestor
  rw [coherent.restPath_eq_of_mem_posts howner hmem]
  exact Path.levels_lt_of_isAncestor habove

/-- The POSTs above a resource never get deeper along the list. -/
theorem descending_ancestorPosts (hholder : holder ∈ group) :
    ((group.ancestorsOf holder).flatMap Resource.posts).Pairwise
      fun a b => b.restPath.levels ≤ a.restPath.levels := by
  have hlevels : ∀ ancestor ∈ group.ancestorsOf holder, ∀ call ∈ ancestor.posts,
      call.restPath.levels = ancestor.path.levels := by
    intro ancestor hancestor call hcall
    have hgroup := ((coherent.mem_ancestorsOf_iff hholder).mp hancestor).1
    rw [coherent.restPath_eq_of_mem_posts hgroup hcall]
  rw [List.pairwise_flatMap]
  constructor
  · intro ancestor hancestor
    refine List.pairwise_of_forall_mem_list ?_
    intro a ha b hb
    rw [hlevels ancestor hancestor a ha, hlevels ancestor hancestor b hb]
  · refine (pairwise_levels_ancestorsOf (coherent.ancestors_eq holder hholder)).imp_of_mem ?_
    intro above below habove hbelow hle a ha b hb
    rwa [hlevels above habove a ha, hlevels below hbelow b hb]

theorem owner_mem_group (hholder : holder ∈ group) (closest : group.ClosestPost holder owner post) :
    owner ∈ group :=
  ((coherent.mem_ancestorsOf_iff hholder).mp closest.owner_mem).1

theorem restPath_eq_of_closest (hholder : holder ∈ group)
    (closest : group.ClosestPost holder owner post) : post.restPath = owner.path :=
  coherent.restPath_eq_of_mem_posts (coherent.owner_mem_group hholder closest) closest.post_mem

/-- The walk from owner to owner stays in the lineage it started in. -/
theorem owner_mem_lineage (hresource : resource ∈ group) (hholder : holder ∈ group.lineage resource)
    (closest : group.ClosestPost holder owner post) : owner ∈ group.lineage resource :=
  mem_lineage_of_mem_ancestorsOf
    (coherent.mem_ancestorsOf_of_lineage hresource hholder closest.owner_mem)

/-- The first of the deepest POSTs above a resource is the first one on the way up. -/
theorem head?_deepestCalls_ancestorPosts (hholder : holder ∈ group) :
    (deepestCalls ((group.ancestorsOf holder).flatMap Resource.posts)).head? =
      (group.ancestorsOf holder).findSome? fun ancestor => ancestor.posts.head? := by
  rw [head?_deepestCalls_of_descending (coherent.descending_ancestorPosts hholder),
    List.head?_flatMap]

theorem findSome?_eq_some_iff (hholder : holder ∈ group) :
    ((group.ancestorsOf holder).findSome? fun ancestor => ancestor.posts.head?) = some post ↔
      ∃ owner, group.ClosestPost holder owner post := by
  constructor
  · intro hfirst
    obtain ⟨closer, owner, further, hsplit, hpost, hcloser⟩ := List.findSome?_eq_some_iff.mp hfirst
    have hnone : ∀ other ∈ closer, other.posts = [] :=
      fun other hother => List.head?_eq_none_iff.mp (hcloser other hother)
    refine ⟨owner, ?_, ?_, hpost⟩
    · rw [List.find?_eq_some_iff_append]
      refine ⟨?_, closer, further, hsplit, ?_⟩
      · cases hposts : owner.posts with
        | nil => simp [hposts] at hpost
        | cons first rest => rfl
      · intro other hother
        simp [hnone other hother]
    · intro other hother howns
      have hlevels := pairwise_levels_ancestorsOf (coherent.ancestors_eq holder hholder)
      rw [hsplit] at hother hlevels
      rcases List.mem_append.mp hother with hother | hother
      · exact absurd (hnone other hother) howns
      · rcases List.mem_cons.mp hother with rfl | hother
        · exact Nat.le_refl _
        · exact (List.pairwise_cons.mp (List.pairwise_append.mp hlevels).2.1).1 other hother
  · rintro ⟨owner, closest⟩
    obtain ⟨-, closer, further, hsplit, hcloser⟩ :=
      List.find?_eq_some_iff_append.mp closest.first_owner
    rw [List.findSome?_eq_some_iff]
    refine ⟨closer, owner, further, hsplit, closest.first_post, ?_⟩
    intro other hother
    have hempty : other.posts = [] := by simpa using hcloser other hother
    rw [hempty, List.head?_nil]

/-- The search above a member of the lineage walks along that member's ancestors. -/
theorem closestAbove?_eq (hresource : resource ∈ group) (hholder : holder ∈ group.lineage resource) :
    group.closestAbove? resource holder.path [.post] =
      (group.ancestorsOf holder).findSome? fun ancestor => ancestor.posts.head? := by
  unfold closestAbove?
  rw [coherent.sameOrAncestor?_eq hresource hholder]
  change (deepestCalls ((group.ancestorCalls holder).filter
    fun call => [Verb.post].contains call.verb)).head? = _
  rw [filter_ancestorCalls]
  exact coherent.head?_deepestCalls_ancestorPosts (coherent.mem_group_of_lineage hresource hholder)

theorem closestAbove?_eq_some_iff (hresource : resource ∈ group)
    (hholder : holder ∈ group.lineage resource) :
    group.closestAbove? resource holder.path [.post] = some post ↔
      ∃ owner, group.ClosestPost holder owner post := by
  rw [coherent.closestAbove?_eq hresource hholder,
    coherent.findSome?_eq_some_iff (coherent.mem_group_of_lineage hresource hholder)]

theorem closestAbove?_eq_none_iff (hresource : resource ∈ group)
    (hholder : holder ∈ group.lineage resource) :
    group.closestAbove? resource holder.path [.post] = none ↔
      ∀ owner ∈ group.ancestorsOf holder, owner.posts = [] := by
  rw [coherent.closestAbove?_eq hresource hholder, List.findSome?_eq_none_iff]
  simp only [List.head?_eq_none_iff]

end Coherent

end ResourceGroup

end RestCatalog
