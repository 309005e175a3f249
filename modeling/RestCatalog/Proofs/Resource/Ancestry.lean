import Mathlib.Data.List.Nodup
import Mathlib.Data.List.Sublists
import RestCatalog.Proofs.Path.Order
import RestCatalog.Resource.Basic

/-!
# The ancestors of a resource

A resource knows its ancestors by their places in the group.  Read back through
the group, these places list exactly the resources on strict initial parts of its
path, deepest first (`filterMap_ancestorPlaces`).

Whatever walks from a resource to an ancestor and on to that ancestor's own
ancestors needs a group in which paths identify resources and the calls of a
resource lie on its path.  `Coherent` collects these conditions, and `lineage` is
the list of resources that such a walk can meet:

* the walk stays in the lineage (`Coherent.mem_ancestorsOf_of_lineage`);
* it finds each of them by its path (`Coherent.sameOrAncestor?_eq`);
* each step leaves fewer ancestors to go (`Coherent.length_ancestorsOf_lt`), which is
  what bounds the walk.
-/

namespace RestCatalog

namespace ResourceGroup

variable {group : ResourceGroup} {resource holder owner : Resource}

/-! ## Deepest first -/

theorem levels_trans {α : Type} (levels : α → Nat) (a b c : α)
    (hab : decide (levels b ≤ levels a) = true) (hbc : decide (levels c ≤ levels b) = true) :
    decide (levels c ≤ levels a) = true := by
  simp only [decide_eq_true_eq] at *
  omega

theorem levels_total {α : Type} (levels : α → Nat) (a b : α) :
    (decide (levels b ≤ levels a) || decide (levels a ≤ levels b)) = true := by
  simp only [Bool.or_eq_true, decide_eq_true_eq]
  omega

/-- In a list sorted by levels, no entry is followed by a deeper one. -/
theorem pairwise_mergeSort_levels {α : Type} (levels : α → Nat) (found : List α) :
    (found.mergeSort fun a b => decide (levels b ≤ levels a)).Pairwise
      fun a b => levels b ≤ levels a := by
  have hsorted := List.pairwise_mergeSort (levels_trans levels) (levels_total levels) found
  simpa only [decide_eq_true_eq] using hsorted

/-! ## Reading the places back -/

/-- The places of the ancestors stand for the resources on initial parts of the path, deepest
first and in the order of the group where they are equally deep. -/
theorem filterMap_ancestorPlaces (group : ResourceGroup) (path : Path) :
    ((group.ancestorPlaces path).filterMap fun place => group[place]?) =
      (group.filter fun other => other.path.isAncestor path).mergeSort
        fun a b => decide (b.path.levels ≤ a.path.levels) := by
  unfold ancestorPlaces
  set found := (group.zipIdx.filter fun entry => entry.1.path.isAncestor path).mergeSort
    fun a b => decide (b.1.path.levels ≤ a.1.path.levels) with hfound
  have hplaces : ∀ entry ∈ found, group[entry.2]? = some entry.1 := by
    intro entry hentry
    rw [hfound, List.mem_mergeSort, List.mem_filter] at hentry
    exact List.mem_zipIdx_iff_getElem?.mp hentry.1
  have hfst : ((group.zipIdx.filter fun entry => entry.1.path.isAncestor path).map Prod.fst) =
      group.filter fun other => other.path.isAncestor path := by
    have hfilter := List.filter_map (f := Prod.fst)
      (p := fun other : Resource => other.path.isAncestor path) (l := group.zipIdx)
    rw [List.zipIdx_map_fst] at hfilter
    exact hfilter.symm
  calc ((found.map (·.2)).filterMap fun place => group[place]?)
      = found.filterMap fun entry => group[entry.2]? := List.filterMap_map
    _ = found.map Prod.fst := by
        rw [List.filterMap_congr hplaces, List.filterMap_eq_map']
    _ = _ := by
        rw [hfound, List.map_mergeSort (f := Prod.fst)
          (s := fun a b : Resource => decide (b.path.levels ≤ a.path.levels))
          (fun a _ b _ => rfl), hfst]

/-- If the ancestors stand in the group from the outermost on, their order is turned around. -/
theorem ancestorPlaces_of_ascending {path : Path}
    (hascending : (group.zipIdx.filter fun entry => entry.1.path.isAncestor path).Pairwise
      fun a b => a.1.path.levels < b.1.path.levels) :
    group.ancestorPlaces path =
      ((group.zipIdx.filter fun entry => entry.1.path.isAncestor path).map (·.2)).reverse := by
  unfold ancestorPlaces
  dsimp only
  generalize (group.zipIdx.filter fun entry => entry.1.path.isAncestor path) = found at hascending ⊢
  have hdepths : (found.map fun entry => entry.1.path.levels).Nodup :=
    List.pairwise_map.mpr (hascending.imp Nat.ne_of_lt)
  have hsorted := pairwise_mergeSort_levels (fun entry => entry.1.path.levels) found
  have hreversed : found.mergeSort (fun a b => decide (b.1.path.levels ≤ a.1.path.levels)) =
      found.reverse := by
    refine List.Perm.eq_of_pairwise ?_ hsorted ?_
      ((List.mergeSort_perm found _).trans (List.reverse_perm found).symm)
    · intro a b ha hb hab hba
      exact List.inj_on_of_nodup_map hdepths (List.mem_mergeSort.mp ha) (List.mem_reverse.mp hb)
        (Nat.le_antisymm hba hab)
    · rw [List.pairwise_reverse]
      exact hascending.imp Nat.le_of_lt
  rw [hreversed, List.map_reverse]

theorem ancestorsOf_eq (hplaces : resource.ancestors = group.ancestorPlaces resource.path) :
    group.ancestorsOf resource =
      (group.filter fun other => other.path.isAncestor resource.path).mergeSort
        fun a b => decide (b.path.levels ≤ a.path.levels) := by
  unfold ancestorsOf
  rw [hplaces, filterMap_ancestorPlaces]

theorem mem_ancestorsOf (hplaces : resource.ancestors = group.ancestorPlaces resource.path) :
    owner ∈ group.ancestorsOf resource ↔
      owner ∈ group ∧ owner.path.isAncestor resource.path = true := by
  rw [ancestorsOf_eq hplaces, List.mem_mergeSort, List.mem_filter]

/-- Closest first: no ancestor is followed by a deeper one. -/
theorem pairwise_levels_ancestorsOf
    (hplaces : resource.ancestors = group.ancestorPlaces resource.path) :
    (group.ancestorsOf resource).Pairwise fun a b => b.path.levels ≤ a.path.levels := by
  rw [ancestorsOf_eq hplaces]
  exact pairwise_mergeSort_levels (fun other : Resource => other.path.levels) _

theorem length_ancestorsOf_le (group : ResourceGroup) (resource : Resource) :
    (group.ancestorsOf resource).length ≤ resource.ancestors.length :=
  List.length_filterMap_le _ _

/-- Ancestors are read back through the group. -/
theorem mem_of_mem_ancestorsOf (howner : owner ∈ group.ancestorsOf resource) : owner ∈ group := by
  obtain ⟨place, -, hplace⟩ := List.mem_filterMap.mp howner
  exact List.mem_of_getElem? hplace

/-! ## Coherent groups -/

/-- A group in which every resource knows its ancestors and has a path of its own, the one
that its calls are made on. -/
structure Coherent (group : ResourceGroup) : Prop where
  ancestors_eq : ∀ resource ∈ group, resource.ancestors = group.ancestorPlaces resource.path
  nodup_paths : (group.map Resource.path).Nodup
  restPath_eq : ∀ resource ∈ group, ∀ call ∈ resource.calls, call.restPath = resource.path

/-- A resource and its ancestors. -/
def lineage (group : ResourceGroup) (resource : Resource) : List Resource :=
  resource :: group.ancestorsOf resource

theorem mem_lineage_self (group : ResourceGroup) (resource : Resource) :
    resource ∈ group.lineage resource :=
  List.mem_cons_self

theorem mem_lineage_of_mem_ancestorsOf (howner : owner ∈ group.ancestorsOf resource) :
    owner ∈ group.lineage resource :=
  List.mem_cons_of_mem _ howner

namespace Coherent

variable (coherent : group.Coherent)
include coherent

theorem mem_ancestorsOf_iff (hresource : resource ∈ group) :
    owner ∈ group.ancestorsOf resource ↔
      owner ∈ group ∧ owner.path.isAncestor resource.path = true :=
  mem_ancestorsOf (coherent.ancestors_eq resource hresource)

theorem mem_group_of_lineage (hresource : resource ∈ group)
    (hholder : holder ∈ group.lineage resource) : holder ∈ group := by
  rcases List.mem_cons.mp hholder with rfl | hancestor
  · exact hresource
  · exact ((coherent.mem_ancestorsOf_iff hresource).mp hancestor).1

theorem eq_of_path_eq (hholder : holder ∈ group) (howner : owner ∈ group)
    (hpath : holder.path = owner.path) : holder = owner :=
  List.inj_on_of_nodup_map coherent.nodup_paths hholder howner hpath

/-- An ancestor of somebody in the lineage is an ancestor. -/
theorem mem_ancestorsOf_of_lineage (hresource : resource ∈ group)
    (hholder : holder ∈ group.lineage resource) (howner : owner ∈ group.ancestorsOf holder) :
    owner ∈ group.ancestorsOf resource := by
  rcases List.mem_cons.mp hholder with rfl | hancestor
  · exact howner
  · rw [coherent.mem_ancestorsOf_iff hresource] at hancestor ⊢
    rw [coherent.mem_ancestorsOf_iff hancestor.1] at howner
    exact ⟨howner.1, Path.isAncestor_trans howner.2 hancestor.2⟩

/-- A member of the lineage is found by its path. -/
theorem sameOrAncestor?_eq (hresource : resource ∈ group)
    (hholder : holder ∈ group.lineage resource) :
    group.sameOrAncestor? resource holder.path = some holder := by
  unfold sameOrAncestor?
  have hgroup := coherent.mem_group_of_lineage hresource hholder
  split
  case isTrue hpath => rw [coherent.eq_of_path_eq hresource hgroup hpath]
  case isFalse hpath =>
    have hancestor : holder ∈ group.ancestorsOf resource := by
      rcases List.mem_cons.mp hholder with rfl | hancestor
      · exact absurd rfl hpath
      · exact hancestor
    obtain ⟨found, hfound⟩ : ∃ found, ((group.ancestorsOf resource).find? fun ancestor =>
        ancestor.path = holder.path) = some found := by
      rw [← Option.isSome_iff_exists, List.find?_isSome]
      exact ⟨holder, hancestor, by simp⟩
    have hfoundPath : found.path = holder.path := by simpa using List.find?_some hfound
    have hfoundGroup : found ∈ group :=
      ((coherent.mem_ancestorsOf_iff hresource).mp (List.mem_of_find?_eq_some hfound)).1
    rw [hfound, coherent.eq_of_path_eq hfoundGroup hgroup hfoundPath]

/-! ## The depth of the ancestry -/

theorem nodup_ancestorsOf (hresource : resource ∈ group) : (group.ancestorsOf resource).Nodup := by
  rw [ancestorsOf_eq (coherent.ancestors_eq resource hresource),
    (List.mergeSort_perm _ _).nodup_iff]
  exact (List.Nodup.of_map _ coherent.nodup_paths).filter _

/-- An ancestor has fewer ancestors: it is not one of its own. -/
theorem length_ancestorsOf_lt (hholder : holder ∈ group) (howner : owner ∈ group.ancestorsOf holder) :
    (group.ancestorsOf owner).length < (group.ancestorsOf holder).length := by
  have hgroup : owner ∈ group := ((coherent.mem_ancestorsOf_iff hholder).mp howner).1
  have hself : owner ∉ group.ancestorsOf owner := by
    intro hmem
    have hancestor := ((coherent.mem_ancestorsOf_iff hgroup).mp hmem).2
    rw [Path.not_isAncestor_self] at hancestor
    exact Bool.false_ne_true hancestor
  have hnodup : (owner :: group.ancestorsOf owner).Nodup :=
    List.nodup_cons.mpr ⟨hself, coherent.nodup_ancestorsOf hgroup⟩
  have hsubset : owner :: group.ancestorsOf owner ⊆ group.ancestorsOf holder := by
    intro other hother
    rcases List.mem_cons.mp hother with rfl | hancestor
    · exact howner
    · exact coherent.mem_ancestorsOf_of_lineage hholder
        (mem_lineage_of_mem_ancestorsOf howner) hancestor
  exact (hnodup.subperm hsubset).length_le

/-- Nobody in the lineage has more ancestors than the resource. -/
theorem length_ancestorsOf_le_of_lineage (hresource : resource ∈ group)
    (hholder : holder ∈ group.lineage resource) :
    (group.ancestorsOf holder).length ≤ resource.ancestors.length := by
  refine Nat.le_trans ?_ (length_ancestorsOf_le group resource)
  rcases List.mem_cons.mp hholder with rfl | hancestor
  · exact Nat.le_refl _
  · exact (coherent.length_ancestorsOf_lt hresource hancestor).le

end Coherent

end ResourceGroup

end RestCatalog
