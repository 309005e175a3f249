import RestCatalog.Proofs.Resource.Closest

/-!
# What the search for the closest calls finds

The search starts at the resource on the path of the target: where it is made from, or the first
ancestor with that path (`StartsAt`).  Whatever is there or above with one of the verbs and
another name than the target comes into question (`IsCandidate`).

* The candidates are listed ancestors first, closest first (`closestCandidates_eq`).
* Of these the deepest ones are kept in their order (`deepestCalls_eq`), and what is chosen
  is put to the source of choices once (`Chooser.askedFor_of_choose`).
* `closestSearch` states all of the search: that it finds something whenever there is a
  candidate, that no candidate is deeper, and which calls are put to choice.  Without a source of
  choices the first of these calls is taken, and the search strictly above a path leaves out the
  calls on it.
-/

namespace RestCatalog

/-- Of some calls, those that no other one lies deeper than. -/
def noneDeeper (calls : List Call) : List Call :=
  calls.filter fun call => calls.all fun other => other.restPath.levels ≤ call.restPath.levels

theorem deepestCalls_eq (calls : List Call) : deepestCalls calls = noneDeeper calls := by
  unfold noneDeeper
  have hdeepest : ∀ call ∈ calls, (call ∈ deepestCalls calls ↔
      (calls.all fun other => other.restPath.levels ≤ call.restPath.levels) = true) := by
    intro call hcall
    rw [mem_deepestCalls, and_iff_right hcall, List.all_eq_true]
    simp only [decide_eq_true_eq]
  unfold deepestCalls at hdeepest ⊢
  refine List.filter_congr fun call hcall => ?_
  rw [Bool.eq_iff_iff, ← hdeepest call hcall, List.mem_filter, and_iff_right hcall]

namespace Chooser

variable {σ : Type} [ChoiceSource σ] {chooser later : Chooser σ} {candidates : List Call}
  {call : Call}

/-- A chooser was asked once, for one of some calls, and has drawn once for it. -/
structure AskedFor (chooser : Chooser σ) (candidates : List Call) (call : Call)
    (later : Chooser σ) : Prop where
  asked_eq : later.asked = chooser.asked ++ [.calls candidates]
  source_eq : later.source = (ChoiceSource.draw chooser.source (candidates.length - 1)).2
  chosen : candidates[(ChoiceSource.draw chooser.source (candidates.length - 1)).1.val]? =
    some call

theorem askedFor_of_choose (hchosen : chooser.choose .calls candidates = (some call, later)) :
    chooser.AskedFor candidates call later := by
  cases candidates with
  | nil => cases hchosen
  | cons first others =>
      obtain ⟨hcall, rfl⟩ := Prod.mk.inj hchosen
      refine ⟨rfl, rfl, ?_⟩
      rw [← hcall]
      exact List.getElem?_eq_getElem _

/-- One of the deepest calls is chosen; nothing is chosen, and nothing asked, only where there are
no calls. -/
theorem deepest_cases (calls : List Call) (chooser : Chooser σ) :
    calls = [] ∧ deepest calls chooser = (none, chooser) ∨
      ∃ call ∈ deepestCalls calls, ∃ later, deepest calls chooser = (some call, later) ∧
        chooser.AskedFor (deepestCalls calls) call later := by
  unfold deepest
  cases hcalls : calls with
  | nil => exact .inl ⟨rfl, rfl⟩
  | cons first rest =>
      right
      cases hdeepest : deepestCalls (first :: rest) with
      | nil => cases deepestCalls_eq_nil_iff.mp hdeepest
      | cons candidate others =>
          exact ⟨_, List.get_mem _ _, _, rfl, askedFor_of_choose rfl⟩

end Chooser

namespace ResourceGroup

variable {σ : Type} [ChoiceSource σ] {group : ResourceGroup} {resource holder : Resource}
  {path : Path} {target call : Call} {verbs : List Verb}

/-! ## Where the search starts -/

/-- The resource on a path that a search from a resource starts at: the resource itself, or
the first of its ancestors with that path if it has another one. -/
inductive StartsAt (group : ResourceGroup) (resource : Resource) (path : Path) : Resource → Prop
  | here (hpath : resource.path = path) : StartsAt group resource path resource
  | above {closer further : List Resource} {holder : Resource} (hother : resource.path ≠ path)
      (hancestors : group.ancestorsOf resource = closer ++ holder :: further)
      (hcloser : ∀ ancestor ∈ closer, ancestor.path ≠ path) (hpath : holder.path = path) :
      StartsAt group resource path holder

theorem sameOrAncestor?_eq_some_iff :
    group.sameOrAncestor? resource path = some holder ↔ group.StartsAt resource path holder := by
  unfold sameOrAncestor?
  constructor
  · intro hfound
    split at hfound
    case isTrue hpath =>
      obtain rfl := Option.some.inj hfound
      exact .here hpath
    case isFalse hother =>
      obtain ⟨hpath, closer, further, hancestors, hcloser⟩ :=
        List.find?_eq_some_iff_append.mp hfound
      exact .above hother hancestors (by simpa using hcloser) (of_decide_eq_true hpath)
  · intro starts
    cases starts with
    | here hpath => rw [if_pos hpath]
    | @above closer further _ hother hancestors hcloser hpath =>
        rw [if_neg hother, List.find?_eq_some_iff_append]
        exact ⟨decide_eq_true hpath, closer, further, hancestors, by simpa using hcloser⟩

/-! ## What comes into question -/

/-- A call with one of the verbs and another name than the target, on the path of the target
or above. -/
def IsCandidate (group : ResourceGroup) (resource : Resource) (target : Call) (verbs : List Verb)
    (call : Call) : Prop :=
  ∃ holder, group.StartsAt resource target.restPath holder ∧
    (∃ owner ∈ group.lineage holder, call ∈ owner.calls) ∧
      call.verb ∈ verbs ∧ call.name ≠ target.name

/-- All candidates are calls of the group that the search is made in. -/
theorem IsCandidate.exists_owner (candidate : group.IsCandidate resource target verbs call)
    (hresource : resource ∈ group) : ∃ owner ∈ group, call ∈ owner.calls := by
  obtain ⟨holder, starts, ⟨owner, howner, hcall⟩, -⟩ := candidate
  have hholder : holder ∈ group := by
    cases starts with
    | here => exact hresource
    | above _ hancestors =>
        have hancestor : holder ∈ group.ancestorsOf resource := by
          rw [hancestors]
          exact List.mem_append_right _ List.mem_cons_self
        exact mem_of_mem_ancestorsOf hancestor
  refine ⟨owner, ?_, hcall⟩
  rcases List.mem_cons.mp howner with rfl | hancestor
  · exact hholder
  · exact mem_of_mem_ancestorsOf hancestor

/-- The candidates of a search that starts at a resource: those above it, closest first, before
its own. -/
def candidatesFrom (group : ResourceGroup) (holder : Resource) (target : Call)
    (verbs : List Verb) : List Call :=
  ((group.ancestorsOf holder).flatMap Resource.calls ++ holder.calls).filter
    fun call => call.verb ∈ verbs ∧ call.name ≠ target.name

theorem closestCandidates_eq (starts : group.StartsAt resource target.restPath holder)
    (verbs : List Verb) :
    group.closestCandidates resource target verbs = group.candidatesFrom holder target verbs := by
  unfold closestCandidates sameOrAncestorCalls candidatesFrom ancestorCalls
  rw [sameOrAncestor?_eq_some_iff.mpr starts]
  refine List.filter_congr fun call _ => ?_
  rw [Bool.eq_iff_iff]
  simp

theorem mem_candidatesFrom :
    call ∈ group.candidatesFrom holder target verbs ↔
      (∃ owner ∈ group.lineage holder, call ∈ owner.calls) ∧
        call.verb ∈ verbs ∧ call.name ≠ target.name := by
  unfold candidatesFrom lineage
  rw [List.mem_filter, decide_eq_true_eq, List.mem_append, List.mem_flatMap, or_comm]
  simp only [List.mem_cons, exists_eq_or_imp]

theorem mem_closestCandidates :
    call ∈ group.closestCandidates resource target verbs ↔
      group.IsCandidate resource target verbs call := by
  constructor
  · intro hcall
    cases hstart : group.sameOrAncestor? resource target.restPath with
    | none => simp [closestCandidates, sameOrAncestorCalls, hstart] at hcall
    | some holder =>
        have starts := sameOrAncestor?_eq_some_iff.mp hstart
        rw [closestCandidates_eq starts, mem_candidatesFrom] at hcall
        exact ⟨holder, starts, hcall⟩
  · rintro ⟨holder, starts, hcall⟩
    rw [closestCandidates_eq starts, mem_candidatesFrom]
    exact hcall

/-! ## What is found -/

section

variable {chooser later : Chooser σ}

/-- Nothing is found only where nothing comes into question, and then nothing is asked. -/
theorem chooseClosest_eq_none
    (hchoice : group.chooseClosest resource target verbs chooser = (none, later)) :
    group.closestCandidates resource target verbs = [] ∧ later = chooser := by
  unfold chooseClosest at hchoice
  rcases Chooser.deepest_cases (group.closestCandidates resource target verbs) chooser with
    ⟨hnone, hdeepest⟩ | ⟨chosen, -, next, hdeepest, -⟩
  · exact ⟨hnone, (Prod.mk.inj (hchoice.symm.trans hdeepest)).2⟩
  · cases hchoice.symm.trans hdeepest

/-- What is found is one of the deepest candidates, chosen among all of them. -/
theorem chooseClosest_eq_some
    (hchoice : group.chooseClosest resource target verbs chooser = (some call, later)) :
    call ∈ deepestCalls (group.closestCandidates resource target verbs) ∧
      chooser.AskedFor (deepestCalls (group.closestCandidates resource target verbs)) call
        later := by
  unfold chooseClosest at hchoice
  rcases Chooser.deepest_cases (group.closestCandidates resource target verbs) chooser with
    ⟨-, hdeepest⟩ | ⟨chosen, hchosen, next, hdeepest, asked⟩
  · cases hchoice.symm.trans hdeepest
  · obtain ⟨hcall, rfl⟩ := Prod.mk.inj (hchoice.symm.trans hdeepest)
    rw [Option.some.inj hcall]
    exact ⟨hchosen, asked⟩

end

theorem firstClosest?_eq_some_iff :
    group.firstClosest? resource target verbs = some call ↔
      ∃ holder, group.StartsAt resource target.restPath holder ∧
        (noneDeeper (group.candidatesFrom holder target verbs)).head? = some call := by
  unfold firstClosest?
  rw [deepestCalls_eq]
  constructor
  · intro hfirst
    have hcall : call ∈ group.closestCandidates resource target verbs :=
      (List.mem_filter.mp (List.mem_of_head? hfirst)).1
    obtain ⟨holder, starts, -⟩ := mem_closestCandidates.mp hcall
    rw [closestCandidates_eq starts] at hfirst
    exact ⟨holder, starts, hfirst⟩
  · rintro ⟨holder, starts, hfirst⟩
    rwa [closestCandidates_eq starts]

/-- Strictly above a path, only the ancestors of the resource on it are searched. -/
theorem closestAbove?_eq_some_iff_startsAt :
    group.closestAbove? resource path verbs = some call ↔
      ∃ holder, group.StartsAt resource path holder ∧
        (noneDeeper (((group.ancestorsOf holder).flatMap Resource.calls).filter
          fun call => call.verb ∈ verbs)).head? = some call := by
  have hfilter : ∀ calls : List Call, calls.filter (fun call => verbs.contains call.verb) =
      calls.filter fun call => call.verb ∈ verbs := by
    intro calls
    refine List.filter_congr fun call _ => ?_
    rw [List.contains_eq_mem]
  unfold closestAbove? ancestorCalls
  constructor
  · intro hfirst
    split at hfirst
    case h_1 => cases hfirst
    case h_2 holder hstart =>
      rw [hfilter, deepestCalls_eq] at hfirst
      exact ⟨holder, sameOrAncestor?_eq_some_iff.mp hstart, hfirst⟩
  · rintro ⟨holder, starts, hfirst⟩
    rw [sameOrAncestor?_eq_some_iff.mpr starts]
    dsimp only
    rwa [hfilter, deepestCalls_eq]

/-- How the closest calls are searched from a resource: those on the path of a target or above
it, and those strictly above. -/
structure ClosestSearch (group : ResourceGroup) (resource : Resource) (target : Call)
    (verbs : List Verb) (chooser : Chooser σ) : Prop where
  none_iff : (group.chooseClosest resource target verbs chooser).1 = none ↔
    ∀ call, ¬ group.IsCandidate resource target verbs call
  /-- Where nothing is found, nothing was asked. -/
  unasked : (group.chooseClosest resource target verbs chooser).1 = none →
    (group.chooseClosest resource target verbs chooser).2 = chooser
  found : ∀ call later, group.chooseClosest resource target verbs chooser = (some call, later) →
    group.IsCandidate resource target verbs call ∧
      ∀ other, group.IsCandidate resource target verbs other →
        other.restPath.levels ≤ call.restPath.levels
  /-- What is found was chosen, at once, among all the deepest candidates in their order. -/
  asked : ∀ call later, group.chooseClosest resource target verbs chooser = (some call, later) →
    ∃ holder, group.StartsAt resource target.restPath holder ∧
      chooser.AskedFor (noneDeeper (group.candidatesFrom holder target verbs)) call later
  first_iff : ∀ call, group.firstClosest? resource target verbs = some call ↔
    ∃ holder, group.StartsAt resource target.restPath holder ∧
      (noneDeeper (group.candidatesFrom holder target verbs)).head? = some call
  above_iff : ∀ call, group.closestAbove? resource target.restPath verbs = some call ↔
    ∃ holder, group.StartsAt resource target.restPath holder ∧
      (noneDeeper (((group.ancestorsOf holder).flatMap Resource.calls).filter
        fun call => call.verb ∈ verbs)).head? = some call
  /-- Ancestors that are known by their places in the group are listed closest first. -/
  closest_first : ∀ holder, group.StartsAt resource target.restPath holder →
    holder.ancestors = group.ancestorPlaces holder.path →
      (group.ancestorsOf holder).Pairwise fun a b => b.path.levels ≤ a.path.levels

/-- The search for the closest calls is sound, complete and deepest first, in every group and from
every resource of it. -/
theorem closestSearch (group : ResourceGroup) (resource : Resource) (target : Call)
    (verbs : List Verb) (chooser : Chooser σ) :
    group.ClosestSearch resource target verbs chooser := by
  constructor
  case none_iff =>
    simp only [← mem_closestCandidates, ← List.eq_nil_iff_forall_not_mem]
    constructor
    · intro hnone
      exact (chooseClosest_eq_none (Prod.ext hnone rfl)).1
    · intro hnone
      unfold chooseClosest
      rw [hnone]
      rfl
  case unasked => exact fun hnone => (chooseClosest_eq_none (Prod.ext hnone rfl)).2
  case found =>
    intro call later hfound
    have hdeepest := mem_deepestCalls.mp (chooseClosest_eq_some hfound).1
    simpa only [mem_closestCandidates] using hdeepest
  case asked =>
    intro call later hfound
    obtain ⟨hdeepest, asked⟩ := chooseClosest_eq_some hfound
    obtain ⟨holder, starts, -⟩ := mem_closestCandidates.mp (mem_deepestCalls.mp hdeepest).1
    rw [closestCandidates_eq starts, deepestCalls_eq] at asked
    exact ⟨holder, starts, asked⟩
  case first_iff => exact fun call => firstClosest?_eq_some_iff
  case above_iff => exact fun call => closestAbove?_eq_some_iff_startsAt
  case closest_first => exact fun holder _ hplaces => pairwise_levels_ancestorsOf hplaces

end ResourceGroup

end RestCatalog
