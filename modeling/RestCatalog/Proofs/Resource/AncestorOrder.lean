import RestCatalog.Proofs.Catalog.SetUp
import RestCatalog.Proofs.Path.Shape

/-!
# The order of ancestors

A resource lists the places of its ancestors.  `Closer` is the order of that list: a place
comes first if its path has more levels, or as many and it stands earlier in the group.  The
sort that makes the list is stable (`filter_mergeSort_levels`), so the list is ordered by
`Closer` (`pairwise_closer_ancestorPlaces`), and a list ordered by `Closer` is known by its
members (`eq_of_pairwise_closer`).

The ancestors of one path lie on one line.  What an ancestor lists is therefore what the
resource itself lists of fewer levels, and in a list that never gets deeper that is the end
of it (`filter_suffix`).  `ExactAncestry` states all this of a resource,
`exactAncestry_of_places` proves it for any that knows its ancestors, and
`Catalog.exactAncestry` for all in a catalog.
-/

namespace RestCatalog

/-- Where a property, once met, holds for the rest of a list, its members with it end the list. -/
theorem filter_suffix {α : Type} {p : α → Bool} {items : List α}
    (hitems : items.Pairwise fun a b => p a = true → p b = true) : items.filter p <:+ items := by
  induction items with
  | nil => exact List.suffix_refl _
  | cons first rest ih =>
      obtain ⟨hfirst, hrest⟩ := List.pairwise_cons.mp hitems
      cases hp : p first with
      | false =>
          rw [List.filter_cons_of_neg (by simp [hp])]
          exact (ih hrest).trans (List.suffix_cons _ _)
      | true =>
          have hall : ∀ item ∈ first :: rest, p item = true := by
            intro item hitem
            rcases List.mem_cons.mp hitem with rfl | hitem
            · exact hp
            · exact hfirst item hitem hp
          exact ⟨[], List.filter_eq_self.mpr hall⟩

namespace ResourceGroup

variable {group : ResourceGroup} {resource other : Resource} {path : Path} {place : Nat}

/-! ## The sort is stable -/

/-- The places in a list of places with their resources increase. -/
private theorem pairwise_snd_zipIdx (group : ResourceGroup) :
    group.zipIdx.Pairwise fun a b => a.2 < b.2 := by
  have hplaces : (group.zipIdx.map Prod.snd).Pairwise (· < ·) := by
    rw [List.zipIdx_map_snd]
    exact List.pairwise_lt_range'
  exact List.pairwise_map.mp hplaces

/-- Sorting by levels leaves the entries of one level as they stood. -/
private theorem filter_mergeSort_levels {α : Type} (levels : α → Nat) (found : List α)
    (level : Nat) :
    ((found.mergeSort fun a b => decide (levels b ≤ levels a)).filter
        fun entry => levels entry = level) = found.filter fun entry => levels entry = level := by
  have hequal : (found.filter fun entry => levels entry = level).Pairwise
      fun a b => decide (levels b ≤ levels a) = true := by
    refine List.pairwise_of_forall_mem_list ?_
    intro a ha b hb
    simp only [List.mem_filter, decide_eq_true_eq] at ha hb ⊢
    omega
  have hkept := (List.sublist_mergeSort (levels_trans levels) (levels_total levels) hequal
    List.filter_sublist).filter fun entry => levels entry = level
  simp only [List.filter_filter, Bool.and_self] at hkept
  refine (hkept.eq_of_length ?_).symm
  exact ((List.mergeSort_perm found _).filter _).length_eq.symm

/-! ## The order of places -/

/-- One place is closer than another one: its path has more levels, or as many and it stands
earlier. -/
def Closer (group : ResourceGroup) (a b : Nat) : Prop :=
  ∃ first second, group[a]? = some first ∧ group[b]? = some second ∧
    (second.path.levels < first.path.levels ∨
      second.path.levels = first.path.levels ∧ a < b)

theorem Closer.irrefl (a : Nat) : ¬ group.Closer a a := by
  rintro ⟨first, second, hfirst, hsecond, hcloser⟩
  obtain rfl := Option.some.inj (hfirst.symm.trans hsecond)
  omega

theorem Closer.asymm {a b : Nat} (hab : group.Closer a b) : ¬ group.Closer b a := by
  obtain ⟨first, second, hfirst, hsecond, hcloser⟩ := hab
  rintro ⟨second', first', hsecond', hfirst', hcloser'⟩
  obtain rfl := Option.some.inj (hfirst.symm.trans hfirst')
  obtain rfl := Option.some.inj (hsecond.symm.trans hsecond')
  omega

/-- Places in this order are known by which they are. -/
theorem eq_of_pairwise_closer {places others : List Nat} (hplaces : places.Pairwise group.Closer)
    (hothers : others.Pairwise group.Closer) (hsame : ∀ place, place ∈ places ↔ place ∈ others) :
    places = others := by
  have hnodup : ∀ {list : List Nat}, list.Pairwise group.Closer → list.Nodup := by
    intro list hlist
    refine hlist.imp ?_
    rintro a _ hcloser rfl
    exact Closer.irrefl a hcloser
  refine List.Perm.eq_of_pairwise ?_ hplaces hothers ?_
  · intro a b _ _ hab hba
    exact absurd hba hab.asymm
  · exact (List.perm_ext_iff_of_nodup (hnodup hplaces) (hnodup hothers)).mpr hsame

theorem mem_ancestorPlaces :
    place ∈ group.ancestorPlaces path ↔
      ∃ other, group[place]? = some other ∧ other.path.isAncestor path = true := by
  unfold ancestorPlaces
  simp only [List.mem_map, List.mem_mergeSort, List.mem_filter, Prod.exists, exists_eq_right,
    List.mem_zipIdx_iff_getElem?]

theorem pairwise_closer_ancestorPlaces (group : ResourceGroup) (path : Path) :
    (group.ancestorPlaces path).Pairwise group.Closer := by
  unfold ancestorPlaces
  dsimp only
  set found := group.zipIdx.filter fun entry => entry.1.path.isAncestor path with hfound
  have hplaces : ∀ entry ∈ found, group[entry.2]? = some entry.1 := by
    intro entry hentry
    rw [hfound, List.mem_filter] at hentry
    exact List.mem_zipIdx_iff_getElem?.mp hentry.1
  have hincreasing : found.Pairwise fun a b => a.2 < b.2 := (pairwise_snd_zipIdx group).filter _
  have hsorted := pairwise_mergeSort_levels (fun entry : Resource × Nat => entry.1.path.levels) found
  rw [List.pairwise_map, List.pairwise_iff_forall_sublist]
  intro a b hab
  have hlevels : b.1.path.levels ≤ a.1.path.levels :=
    List.pairwise_iff_forall_sublist.mp hsorted hab
  have ha : a ∈ found := List.mem_mergeSort.mp (hab.subset List.mem_cons_self)
  have hb : b ∈ found :=
    List.mem_mergeSort.mp (hab.subset (List.mem_cons_of_mem _ List.mem_cons_self))
  refine ⟨a.1, b.1, hplaces a ha, hplaces b hb, ?_⟩
  rcases hlevels.lt_or_eq with hlt | heq
  · exact .inl hlt
  · -- among entries of one level the sort has left the order of the group
    have hlevel := hab.filter fun entry => entry.1.path.levels = a.1.path.levels
    have hboth : [a, b].filter (fun entry => entry.1.path.levels = a.1.path.levels) = [a, b] := by
      simp [heq]
    rw [filter_mergeSort_levels fun entry : Resource × Nat => entry.1.path.levels, hboth] at hlevel
    have hplace : a.2 < b.2 :=
      List.pairwise_iff_forall_sublist.mp hincreasing (hlevel.trans List.filter_sublist)
    exact .inr ⟨heq, hplace⟩

/-! ## Exact ancestry -/

/-- The ancestors that a resource knows are exact, in order and nested. -/
structure ExactAncestry (group : ResourceGroup) (resource : Resource) : Prop where
  /-- They stand on the strict initial parts of the path, parameter names apart. -/
  mem_iff : ∀ place, place ∈ resource.ancestors ↔
    ∃ other, group[place]? = some other ∧ other.path.levels < resource.path.levels ∧
      other.path.shape <+: resource.path.shape
  nodup : resource.ancestors.Nodup
  /-- The deeper ones come first, and equally deep ones in the order of the group. -/
  ordered : resource.ancestors.Pairwise group.Closer
  /-- What an ancestor knows is the end of the list, from the first one with fewer levels. -/
  nested : ∀ place other, place ∈ resource.ancestors → group[place]? = some other →
    other.ancestors = resource.ancestors.filter (fun further =>
        group[further]?.any fun above => above.path.levels < other.path.levels) ∧
      other.ancestors <:+ resource.ancestors

/-- Of the ancestors of a path those of fewer levels than one of them are that one's ancestors. -/
theorem ancestorPlaces_eq_filter (group : ResourceGroup)
    (hother : other.path.isAncestor path = true) :
    group.ancestorPlaces other.path = (group.ancestorPlaces path).filter fun further =>
      group[further]?.any fun above => above.path.levels < other.path.levels := by
  refine eq_of_pairwise_closer (pairwise_closer_ancestorPlaces group other.path)
    ((pairwise_closer_ancestorPlaces group path).filter _) ?_
  intro place
  rw [List.mem_filter, mem_ancestorPlaces, mem_ancestorPlaces, Option.any_eq_true]
  constructor
  · rintro ⟨above, hplace, habove⟩
    refine ⟨⟨above, hplace, Path.isAncestor_trans habove hother⟩, above, hplace, ?_⟩
    exact decide_eq_true (Path.levels_lt_of_isAncestor habove)
  · rintro ⟨⟨above, hplace, habove⟩, above', hplace', hlevels⟩
    obtain rfl := Option.some.inj (hplace.symm.trans hplace')
    exact ⟨above, hplace, Path.isAncestor_of_levels_lt habove hother (of_decide_eq_true hlevels)⟩

/-- Fewer levels are followed by fewer levels. -/
private theorem pairwise_levels_lt (path : Path) (levels : Nat) :
    (group.ancestorPlaces path).Pairwise fun a b =>
      (group[a]?.any fun above => above.path.levels < levels) = true →
        (group[b]?.any fun above => above.path.levels < levels) = true := by
  refine (pairwise_closer_ancestorPlaces group path).imp ?_
  rintro a b ⟨first, second, hfirst, hsecond, hcloser⟩ hlevels
  rw [hfirst, Option.any_some, decide_eq_true_eq] at hlevels
  rw [hsecond, Option.any_some, decide_eq_true_eq]
  omega

/-- In a group whose resources know their ancestors, they know them exactly. -/
theorem exactAncestry_of_places
    (hplaces : ∀ r ∈ group, r.ancestors = group.ancestorPlaces r.path)
    (hresource : resource ∈ group) : group.ExactAncestry resource := by
  have hordered := pairwise_closer_ancestorPlaces group resource.path
  rw [← hplaces resource hresource] at hordered
  constructor
  case mem_iff =>
    intro place
    rw [hplaces resource hresource, mem_ancestorPlaces]
    simp only [Path.isAncestor_iff_shape]
  case nodup =>
    refine hordered.imp ?_
    rintro a _ hcloser rfl
    exact Closer.irrefl a hcloser
  case ordered => exact hordered
  case nested =>
    intro place other hplace hother
    have hgroup : other ∈ group := List.mem_of_getElem? hother
    rw [hplaces resource hresource, mem_ancestorPlaces] at hplace
    obtain ⟨other', hother', habove⟩ := hplace
    obtain rfl := Option.some.inj (hother.symm.trans hother')
    have hfilter := ancestorPlaces_eq_filter group habove
    rw [← hplaces other hgroup, ← hplaces resource hresource] at hfilter
    refine ⟨hfilter, ?_⟩
    rw [hfilter, hplaces resource hresource]
    exact filter_suffix (pairwise_levels_lt _ _)

end ResourceGroup

namespace Catalog

variable {config : Config} {endpoints : List Endpoint} {catalog : Catalog} {resource : Resource}

/-- Every resource of a catalog knows its ancestors exactly, in order and nested. -/
theorem exactAncestry (hbuilt : ofEndpoints endpoints config = .ok catalog)
    (hresource : resource ∈ catalog.resources) : catalog.resources.ExactAncestry resource :=
  ResourceGroup.exactAncestry_of_places (fun _ => ancestors_of_ofEndpoints hbuilt) hresource

/-- Ancestors that are nested three deep. -/
theorem exactAncestry_items :
    ∃ catalog, ofEndpoints nestedEndpoints .standard = .ok catalog ∧
      catalog.resources.map (fun resource => (resource.name, resource.ancestors)) =
        [("/shops", []), ("/shops/{shopId}", [0]), ("/shops/{shopId}/items", [1, 0]),
          ("/shops/{shopId}/items/{itemId}", [2, 1, 0])] ∧
      ∀ resource ∈ catalog.resources, catalog.resources.ExactAncestry resource := by
  obtain ⟨catalog, -, hbuilt, -, -, -, hnested, -⟩ := exists_items
  exact ⟨catalog, hbuilt, hnested, fun resource hresource => exactAncestry hbuilt hresource⟩

end Catalog

end RestCatalog
