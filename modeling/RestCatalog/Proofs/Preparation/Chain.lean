import RestCatalog.Proofs.Creation.Resolution
import RestCatalog.Proofs.Preparation.Outcome

/-!
# Preparations follow the resolved chain

The creator of a POST is searched in two ways.  Resolving a chain looks strictly above
the path of the POST.  Preparing a call looks on its path as well, and leaves out the
calls of the target's own name; where every resource owns at most one POST, this leaves
the same candidates (`Coherent.chooseClosest_post`), so a source that always draws the
first candidate makes the same choice.

The simulation is `CreatorLine.prepareFor_spec`: once the creator of a target is chosen,
the rest of the preparation inserts the calls of its line.  The induction is on the line,
and the bound on the calls is carried along as the number of ancestors of the creator's
owner.  `prepare_follows_postChain` starts it with the choice for a call that is no POST,
which is the creator of the resource (`Coherent.chooseClosest_of_ne_post`).
-/

namespace RestCatalog

namespace ResourceGroup

variable {σ : Type} [ChoiceSource σ] {group : ResourceGroup} {resource holder : Resource}
  {target first own post creator : Call} {chooser later : Chooser σ} {outer : List Call}
  {unresolved : Option String}

/-! ## The same candidates -/

section

variable (coherent : group.Coherent) (hresource : resource ∈ group)
include coherent hresource

/-- The candidates for a target on the path of a member of the lineage. -/
theorem Coherent.closestCandidates_eq (hholder : holder ∈ group.lineage resource)
    (htarget : target.restPath = holder.path) :
    group.closestCandidates resource target [.post] =
      ((group.ancestorsOf holder).flatMap Resource.posts ++ holder.posts).filter
        fun call => call.name != target.name := by
  unfold closestCandidates sameOrAncestorCalls
  rw [htarget, coherent.sameOrAncestor?_eq hresource hholder]
  dsimp only
  rw [← filter_ancestorCalls]
  unfold Resource.posts
  simp only [contains_post, List.filter_append, List.filter_filter]
  simp only [Bool.and_comm]

/-- A POST on the path of its owner leaves the POSTs above it. -/
theorem Coherent.closestCandidates_post (hholder : holder ∈ group.lineage resource)
    (hown : holder.posts = [own]) (htarget : target.Alike own) :
    group.closestCandidates resource target [.post] =
      (group.ancestorsOf holder).flatMap Resource.posts := by
  have hgroup := coherent.mem_group_of_lineage hresource hholder
  have hpath : own.restPath = holder.path :=
    coherent.restPath_eq_of_mem_posts hgroup (by simp [hown])
  rw [coherent.closestCandidates_eq hresource hholder (htarget.restPath_eq.trans hpath), hown,
    List.filter_append]
  have habove : ∀ call ∈ (group.ancestorsOf holder).flatMap Resource.posts,
      (call.name != target.name) = true := by
    intro call hcall
    rw [bne_iff_ne]
    intro hname
    -- one name would put a POST from above on the path of the holder
    have hlevels := coherent.levels_lt_of_mem_ancestorPosts hgroup hcall
    rw [(Call.alike_iff_name_eq.mpr hname).restPath_eq, htarget.restPath_eq, hpath] at hlevels
    exact Nat.lt_irrefl _ hlevels
  rw [List.filter_eq_self.mpr habove, htarget.name_eq]
  simp

/-- A target that is no POST leaves all POSTs. -/
theorem Coherent.closestCandidates_of_ne_post (hholder : holder ∈ group.lineage resource)
    (htarget : target.restPath = holder.path) (hverb : target.verb ≠ .post) :
    group.closestCandidates resource target [.post] =
      (group.ancestorsOf holder).flatMap Resource.posts ++ holder.posts := by
  rw [coherent.closestCandidates_eq hresource hholder htarget, List.filter_eq_self]
  intro call hcall
  have hpost : call.verb = .post := by
    rcases List.mem_append.mp hcall with hcall | hcall
    · obtain ⟨ancestor, -, hmem⟩ := List.mem_flatMap.mp hcall
      exact (mem_posts.mp hmem).2
    · exact (mem_posts.mp hcall).2
  rw [bne_iff_ne]
  intro hname
  have hsame := (Call.alike_iff_name_eq.mpr hname).verb_eq
  exact hverb (hsame.symm.trans hpost)

/-! ## The same choice -/

/-- For a POST that its resource owns alone the first POST on the way up is chosen. -/
theorem Coherent.chooseClosest_post (hholder : holder ∈ group.lineage resource)
    (hown : holder.posts = [own]) (htarget : target.Alike own)
    (hfirst : ChoiceSource.AlwaysFirst chooser.source) :
    ∃ later, group.chooseClosest resource target [.post] chooser =
        ((group.ancestorsOf holder).findSome? fun ancestor => ancestor.posts.head?, later) ∧
      ChoiceSource.AlwaysFirst later.source := by
  unfold chooseClosest
  rw [coherent.closestCandidates_post hresource hholder hown htarget,
    ← coherent.head?_deepestCalls_ancestorPosts (coherent.mem_group_of_lineage hresource hholder)]
  exact Chooser.deepest_of_alwaysFirst _ _ hfirst

/-- For another call of the resource its creator is chosen. -/
theorem Coherent.chooseClosest_of_ne_post (hsingle : resource.posts.length ≤ 1)
    (htarget : target.restPath = resource.path) (hverb : target.verb ≠ .post)
    (hfirst : ChoiceSource.AlwaysFirst chooser.source) :
    ∃ later, group.chooseClosest resource target [.post] chooser =
        (group.creatorOf? resource, later) ∧
      ChoiceSource.AlwaysFirst later.source := by
  have hself := mem_lineage_self group resource
  have hcreator : (deepestCalls (group.closestCandidates resource target [.post])).head? =
      group.creatorOf? resource := by
    rw [coherent.closestCandidates_of_ne_post hresource hself htarget hverb]
    unfold creatorOf?
    cases hposts : resource.posts with
    | nil =>
        dsimp only
        rw [List.append_nil, coherent.head?_deepestCalls_ancestorPosts hresource,
          coherent.closestAbove?_eq hresource hself]
    | cons own rest =>
        obtain rfl : rest = [] := by
          rw [hposts, List.length_cons] at hsingle
          exact List.length_eq_zero_iff.mp (by omega)
        have hown : own.restPath = resource.path :=
          coherent.restPath_eq_of_mem_posts hresource (by simp [hposts])
        have hbelow : ∀ other ∈ (group.ancestorsOf resource).flatMap Resource.posts,
            other.restPath.levels < own.restPath.levels := by
          intro other hother
          rw [hown]
          exact coherent.levels_lt_of_mem_ancestorPosts hresource hother
        rw [deepestCalls_append_singleton hbelow]
        rfl
  unfold chooseClosest
  rw [← hcreator]
  exact Chooser.deepest_of_alwaysFirst _ _ hfirst

/-! ## The simulation -/

omit coherent hresource in
/-- Preparing a chosen POST in turn puts it behind the calls of its own preparation, which
decides about success. -/
private theorem prepareFor_of_needs_names (fuel length : Nat)
    (hchoice : group.chooseClosest resource target [.post] chooser = (some creator, later))
    (hneeds : creator.restPath.needsDependency = true) :
    let inner := (group.prepareFor resource none (fuel + 1) (length + 1)
      (creator.createdFor target) later).1
    let prepared := (group.prepareFor resource none (fuel + 2) length target chooser).1
    prepared.inserted.map Call.name = inner.inserted.map Call.name ++ [creator.name] ∧
      (inner.status = .created → prepared.status = .created) := by
  obtain ⟨⟨inner, after⟩, hinner⟩ : ∃ result, group.prepareFor resource none (fuel + 1)
      (length + 1) (creator.createdFor target) later = result := ⟨_, rfl⟩
  have hspec : group.PreparedFor resource (fuel + 1) (creator.createdFor target) _ :=
    ResourceGroup.prepareFor_spec fuel (length + 1) (creator.createdFor target) later
  rw [hinner] at hspec
  rw [prepareFor_of_needs (leavesRoom_none length) hchoice hneeds hinner, hinner]
  dsimp only
  obtain ⟨post, hinserted, halike⟩ := inner.inserted_followedBy target
  have hpost := (halike.trans hspec.target_alike).trans (Call.createdFor_alike creator target)
  refine ⟨?_, Preparation.status_followedBy_eq_created.mpr⟩
  rw [hinserted, List.map_append, List.map_singleton, hpost.name_eq]

omit coherent hresource in
private theorem posts_eq_singleton (hsingle : holder.posts.length ≤ 1) (hmem : post ∈ holder.posts) :
    holder.posts = [post] := by
  obtain ⟨first, hfirst⟩ := List.length_eq_one_iff.mp
    (Nat.le_antisymm hsingle (List.length_pos_of_mem hmem))
  rw [hfirst] at hmem ⊢
  rw [List.mem_singleton.mp hmem]

/-- Once the creator of a target is chosen, a preparation inserts the calls of its line, and it
succeeds if nothing on the line stays unresolved. -/
theorem CreatorLine.prepareFor_spec (hsingle : ∀ other ∈ group, other.posts.length ≤ 1)
    (line : group.CreatorLine holder creator outer unresolved)
    (hholder : holder ∈ group.lineage resource) (hcreator : creator ∈ holder.posts)
    {fuel : Nat} (hfuel : (group.ancestorsOf holder).length ≤ fuel) (length : Nat) {target : Call}
    {chooser later : Chooser σ}
    (hchoice : group.chooseClosest resource target [.post] chooser = (some creator, later))
    (hfirst : ChoiceSource.AlwaysFirst later.source) :
    let prepared := (group.prepareFor resource none (fuel + 1) length target chooser).1
    prepared.inserted.map Call.name = (outer ++ [creator]).map Call.name ∧
      (unresolved = none → prepared.status = .created) := by
  induction line generalizing fuel length target chooser later with
  | @settled holder creator hneeds =>
      rw [prepareFor_of_settled (leavesRoom_none length) hchoice hneeds]
      have halike := (handOver_alike (creator.createdFor target) target).1
      exact ⟨congrArg (· :: []) halike.name_eq, fun _ => rfl⟩
  | @stuck holder creator hneeds hnone =>
      refine ⟨?_, fun hresolved => nomatch hresolved⟩
      cases fuel with
      | zero =>
          rw [prepareFor_of_exhausted (leavesRoom_none length) hchoice hneeds]
          rfl
      | succ fuel =>
          -- the POST is prepared in turn, and no candidate is left for it
          have hown := posts_eq_singleton
            (hsingle holder (coherent.mem_group_of_lineage hresource hholder)) hcreator
          obtain ⟨next, hnext, -⟩ := coherent.chooseClosest_post hresource hholder hown
            (Call.createdFor_alike creator target) hfirst
          rw [List.findSome?_eq_none_iff.mpr fun owner howner =>
            List.head?_eq_none_iff.mpr (hnone owner howner)] at hnext
          rw [(prepareFor_of_needs_names fuel length hchoice hneeds).1,
            prepareFor_of_none (leavesRoom_none _) hnext]
          rfl
  | @step holder owner creator further outer unresolved hneeds closest line ih =>
      have hgroup := coherent.mem_group_of_lineage hresource hholder
      have hfewer := coherent.length_ancestorsOf_lt hgroup closest.owner_mem
      -- an owner above leaves room for at least one more call
      obtain ⟨less, rfl⟩ : ∃ less, fuel = less + 1 :=
        Nat.exists_eq_succ_of_ne_zero (by omega)
      have hown := posts_eq_singleton (hsingle holder hgroup) hcreator
      obtain ⟨next, hnext, hfirst'⟩ := coherent.chooseClosest_post hresource hholder hown
        (Call.createdFor_alike creator target) hfirst
      rw [(coherent.findSome?_eq_some_iff hgroup).mpr ⟨owner, closest⟩] at hnext
      have hlineage := coherent.owner_mem_lineage hresource hholder closest
      have hroom : (group.ancestorsOf owner).length ≤ less := by omega
      obtain ⟨hnames, hstatus⟩ := ih hlineage closest.post_mem hroom (length + 1) hnext hfirst'
      obtain ⟨hnames', hstatus'⟩ := prepareFor_of_needs_names less length hchoice hneeds
      refine ⟨?_, fun hresolved => hstatus' (hstatus hresolved)⟩
      rw [hnames', hnames]
      simp

/-- Preparing another call of a resource inserts the resolution of its creation. -/
theorem Coherent.prepare_spec (hsingle : ∀ other ∈ group, other.posts.length ≤ 1)
    (htarget : target.restPath = resource.path) (hverb : target.verb ≠ .post)
    (hfirst : ChoiceSource.AlwaysFirst chooser.source) (length : Nat) :
    let prepared := (group.prepare resource none length target chooser).1
    let resolution := group.resolveCreation resource
    prepared.inserted.map Call.name = resolution.steps.map Call.name ∧
      (resolution.steps = [] → prepared.status = .notFound) ∧
      (resolution.steps ≠ [] → resolution.unresolved = none → prepared.status = .created) := by
  obtain ⟨later, hchoice, hfirst'⟩ :=
    coherent.chooseClosest_of_ne_post hresource (hsingle resource hresource) htarget hverb hfirst
  unfold prepare
  cases hcreator : group.creatorOf? resource with
  | none =>
      rw [hcreator] at hchoice
      have hsteps := steps_eq_nil_of_creatorOf? hcreator
      rw [prepareFor_of_none (leavesRoom_none length) hchoice, if_neg hverb]
      dsimp only
      rw [hsteps]
      exact ⟨rfl, fun _ => rfl, fun h => absurd rfl h⟩
  | some post =>
      rw [hcreator] at hchoice
      obtain ⟨holder, hholder, outer, unresolved, hpost, line, hresolution, -⟩ :=
        coherent.exists_line_of_creatorOf? hresource hcreator
      have hfuel := coherent.length_ancestorsOf_le_of_lineage hresource hholder
      obtain ⟨hnames, hstatus⟩ := line.prepareFor_spec coherent hresource hsingle hholder hpost
        hfuel length hchoice hfirst'
      rw [hresolution]
      exact ⟨hnames, by simp, fun _ => hstatus⟩

end

end ResourceGroup

namespace Catalog

open ResourceGroup

variable {σ : Type} [ChoiceSource σ] {config : Config} {endpoints : List Endpoint}
  {catalog : Catalog} {resource : Resource} {target : Call} {chooser : Chooser σ}

/-- A sequence that was prepared for a call consists of the chain of its resource and the call,
is reported as the chain is settled, and lets the chain fail. -/
theorem prepare_follows_postChain (hbuilt : ofEndpoints endpoints config = .ok catalog)
    (hstable : ∀ endpoint ∈ endpoints, Path.Stable endpoint.path)
    (hsingle : ∀ other ∈ catalog.resources, other.posts.length ≤ 1)
    (hresource : resource ∈ catalog.resources) (hcall : target ∈ resource.calls)
    (hverb : target.verb ≠ .post) (hfirst : ChoiceSource.AlwaysFirst chooser.source)
    (length : Nat) :
    ∃ chain, resource.creations.postChain? = some chain ∧
      let prepared := (catalog.resources.prepare resource none length target chooser).1
      let sequence := prepared.inserted ++ [prepared.target]
      sequence.map Call.name = chain.steps.map CreationStep.name ++ [target.name] ∧
        (chain.steps = [] → prepared.status = .notFound) ∧
        (chain.steps ≠ [] → chain.status = .complete → prepared.status = .created) ∧
        (chain.steps ≠ [] → ∃ store : CreationStore,
          resource.creations.confirmFailure sequence =
            (store, some { chain with status := .failed }) ∧
          store.chains.get? chain.key = some { chain with status := .failed } ∧
          store.postChain? = some { chain with status := .failed }) := by
  have coherent := coherent_of_ofEndpoints hbuilt hstable
  refine ⟨_, postChain?_eq_resolveCreation hbuilt hresource, ?_⟩
  intro prepared sequence
  obtain ⟨hnames, hempty, hcomplete⟩ := coherent.prepare_spec hresource hsingle
    (coherent.restPath_eq resource hresource target hcall) hverb hfirst length
  have hspec : catalog.resources.PreparedFor resource (resource.ancestors.length + 1) target
      prepared := ResourceGroup.prepareFor_spec _ length target chooser
  have hsteps : (catalog.resources.resolveCreation resource).chain.steps.map CreationStep.name =
      prepared.inserted.map Call.name := by
    rw [hnames]
    exact List.map_map
  have hchainEmpty : (catalog.resources.resolveCreation resource).chain.steps = [] ↔
      (catalog.resources.resolveCreation resource).steps = [] := List.map_eq_nil_iff
  refine ⟨?_, ?_, ?_, ?_⟩
  · rw [List.map_append, hsteps, List.map_singleton, hspec.target_alike.name_eq]
  · rw [hchainEmpty]
    exact hempty
  · intro hne hstatus
    refine hcomplete (fun h => hne (hchainEmpty.mpr h)) ?_
    unfold Resolution.chain at hstatus
    simpa using hstatus
  · intro hne
    have hposts : (sequence.filter fun call => call.verb = .post) = prepared.inserted := by
      have htarget : ¬ prepared.target.verb = .post := by rwa [hspec.target_alike.verb_eq]
      rw [List.filter_append, List.filter_eq_self.mpr (by simpa using hspec.posts)]
      simp [htarget]
    have hget : resource.creations.chains.get?
        (catalog.resources.resolveCreation resource).chain.key =
          some (catalog.resources.resolveCreation resource).chain := by
      rw [creations_eq hbuilt hresource]
      exact OrderedMap.get?_insert_self _ _ _
    have hconfirm : resource.creations.confirmFailure sequence = _ :=
      CreationStore.confirmFailure_of_steps rfl hget hne (by rw [hposts, hsteps])
    refine ⟨_, hconfirm, OrderedMap.get?_insert_self _ _ _, ?_⟩
    unfold CreationStore.postChain?
    rw [Option.bind_some]
    exact OrderedMap.get?_insert_self _ _ _

/-- An item is read after its shop and the item have been created, and if that fails, the chain
that creates them has failed. -/
theorem prepare_follows_postChain_items :
    ∃ catalog resource chain, ofEndpoints nestedEndpoints .standard = .ok catalog ∧
      (∀ endpoint ∈ nestedEndpoints, Path.Stable endpoint.path) ∧
      (∀ other ∈ catalog.resources, other.posts.length ≤ 1) ∧
      resource ∈ catalog.resources ∧ readItem ∈ resource.calls ∧ readItem.verb ≠ .post ∧
      ChoiceSource.AlwaysFirst firstChooser.source ∧
      resource.creations.postChain? = some chain ∧
      let prepared := (catalog.resources.prepare resource none 1 readItem firstChooser).1
      let sequence := prepared.inserted ++ [prepared.target]
      sequence.map Call.name = ["POST:/shops", "POST:/shops/{shopId}/items",
          "GET:/shops/{shopId}/items/{itemId}"] ∧
        prepared.status = .created ∧
        ∃ store : CreationStore,
          resource.creations.confirmFailure sequence =
              (store, some { chain with status := .failed }) ∧
            store.postChain? = some { chain with status := .failed } := by
  obtain ⟨catalog, resource, hbuilt, hresource, hcalls, hresolution, -, hsingle⟩ := exists_items
  have hstable : ∀ endpoint ∈ nestedEndpoints, Path.Stable endpoint.path := by decide +kernel
  have hcall : readItem ∈ resource.calls := by
    rw [hcalls]
    exact List.mem_cons_self
  have hverb : readItem.verb ≠ .post := by decide
  obtain ⟨chain, hchain, hnames, -, hcreated, hfailed⟩ := prepare_follows_postChain hbuilt hstable
    hsingle hresource hcall hverb alwaysFirst_firstChooser 1
  have hgiven := postChain?_eq_resolveCreation hbuilt hresource
  rw [hresolution] at hgiven
  obtain rfl := Option.some.inj (hchain.symm.trans hgiven)
  obtain ⟨store, hconfirmed, -, hpost⟩ := hfailed (by decide)
  exact ⟨catalog, resource, _, hbuilt, hstable, hsingle, hresource, hcall, hverb,
    alwaysFirst_firstChooser, hchain, hnames, hcreated (by decide) rfl, store, hconfirmed, hpost⟩

end Catalog

end RestCatalog
