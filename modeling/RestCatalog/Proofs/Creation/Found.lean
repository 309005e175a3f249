import RestCatalog.Proofs.Creation.History
import RestCatalog.Proofs.Creation.Signature

/-!
# For which steps a chain is found

A chain is looked up by a key, and the key of some steps holds the signature of their
names.  What is found has the same signature; whether it has the same participants is
another matter.  `ExactFind` says when: exactly if the two sorted lists of names are not
entangled, so in any case where no name holds a comma, and for calls where no path holds
one in front of a verb and a colon.

The only other way to mistake one set for another would be an empty chain, whose signature
is the empty text.  `WellMade` rules that out: a stored chain without steps is a chain of
POST calls, and no call has an empty name.  Every operation keeps it
(`stepCreations_wellMade`), so it holds of every resource whose chains come about by
operations (`Reachable`), and `exactFind` draws the conclusion for both kinds of search.
`not_exactFind_comma` is a search that finds a chain of other insertions.
-/

namespace RestCatalog

/-! ## Chains that operations make -/

/-- A chain of POST calls consists of calls, and any other chain has a step. -/
structure CreationChain.WellMade (chain : CreationChain) : Prop where
  call_of_post : chain.variant = .post → ∀ step ∈ chain.steps, ∃ call, step = .call call
  steps_ne_nil : chain.variant ≠ .post → chain.steps ≠ []

theorem CreationChain.WellMade.congr {chain other : CreationChain} (wellMade : chain.WellMade)
    (hvariant : other.variant = chain.variant) (hsteps : other.steps = chain.steps) :
    other.WellMade := by
  refine ⟨?_, ?_⟩
  · rw [hvariant, hsteps]
    exact wellMade.call_of_post
  · rw [hvariant, hsteps]
    exact wellMade.steps_ne_nil

theorem Resolution.wellMade_chain (resolution : Resolution) : resolution.chain.WellMade := by
  refine ⟨?_, fun hvariant => absurd rfl hvariant⟩
  intro _ step hstep
  obtain ⟨call, -, rfl⟩ := List.mem_map.mp hstep
  exact ⟨call, rfl⟩

namespace CreationStore

variable {store later : CreationStore} {chain found : CreationChain} {key : ChainKey}
  {insertions : List Insertion} {calls : List Call}

/-- A combination is made of its insertions and calls, which have names in it. -/
theorem combination?_spec (hcombination : combination? insertions calls = some chain) :
    chain.WellMade ∧
      chain.steps.map (CreationChain.participantName chain.variant) =
        insertions.map Insertion.table ++ calls.map Call.name ∧
      insertions.map Insertion.table ++ calls.map Call.name ≠ [] ∧
      (chain.variant = .post ↔ insertions = []) := by
  unfold combination? at hcombination
  cases insertions with
  | nil =>
      cases calls with
      | nil => cases hcombination
      | cons call calls =>
          cases hcombination
          refine ⟨⟨?_, fun hvariant => absurd rfl hvariant⟩, ?_, by simp, fun _ => rfl, fun _ => rfl⟩
          · intro _ step hstep
            obtain ⟨call, -, rfl⟩ := List.mem_map.mp hstep
            exact ⟨call, rfl⟩
          · simp only [List.map_nil, List.nil_append, List.map_map]
            rfl
  | cons insertion insertions =>
      cases calls with
      | nil =>
          cases hcombination
          refine ⟨⟨nofun, by simp⟩, ?_, by simp, nofun, nofun⟩
          simp only [List.map_nil, List.append_nil, List.map_map]
          rfl
      | cons call calls =>
          cases hcombination
          refine ⟨⟨nofun, by simp⟩, ?_, by simp, nofun, nofun⟩
          rw [List.map_append, List.map_map, List.map_map]
          rfl

/-- All chains of a store are well made. -/
def WellMade (store : CreationStore) : Prop :=
  ∀ key chain, store.chains.get? key = some chain → chain.WellMade

theorem wellMade_empty : WellMade {} := by
  intro key chain hget
  cases hget

theorem WellMade.insert (wellMade : store.WellMade) (hchain : chain.WellMade) (key : ChainKey)
    (last : Option ChainKey) :
    WellMade { chains := store.chains.insert key chain, lastPost := last } := by
  intro other found hget
  rw [OrderedMap.get?_insert] at hget
  split at hget
  case isTrue =>
    obtain rfl := Option.some.inj hget
    exact hchain
  case isFalse => exact wellMade other found hget

theorem WellMade.register (wellMade : store.WellMade) (hchain : chain.WellMade) :
    (store.register chain).1.WellMade := by
  unfold CreationStore.register
  refine wellMade.insert ?_ _ _
  split
  case h_1 existing hget =>
    split
    · exact wellMade _ existing hget
    · exact hchain
  case h_2 => exact hchain

theorem WellMade.findOrRegister? (wellMade : store.WellMade) {isNew : Bool}
    (hfound : store.findOrRegister? insertions calls = some (later, isNew, found)) :
    later.WellMade := by
  unfold CreationStore.findOrRegister? at hfound
  obtain ⟨combination, hcombination, hresult⟩ := Option.map_eq_some_iff.mp hfound
  obtain ⟨hmade, -⟩ := combination?_spec hcombination
  split at hresult
  case h_1 existing hget =>
    cases hresult
    exact wellMade
  case h_2 hget =>
    have hcomplete : ({ combination with status := .complete } : CreationChain).WellMade :=
      hmade.congr rfl rfl
    cases hresult
    exact wellMade.register hcomplete

theorem WellMade.confirmFailure (wellMade : store.WellMade) (wellKeyed : store.WellKeyed)
    (calls : List Call) : (store.confirmFailure calls).1.WellMade := by
  rcases wellKeyed.confirmFailure_eq calls with hnone | ⟨found, hget, -, hfound⟩
  · rw [hnone]
    exact wellMade
  · have hfailed : ({ found with status := .failed } : CreationChain).WellMade :=
      (wellMade _ found hget).congr rfl rfl
    rw [hfound]
    exact wellMade.insert hfailed _ _

theorem WellMade.confirmAt (wellMade : store.WellMade) {confirmation : Confirmation}
    (hconfirm : store.confirmAt key confirmation = .ok later) : later.WellMade := by
  rcases confirmAt_eq_ok hconfirm with rfl | ⟨found, settled, hget, hsettled, rfl⟩
  · exact wellMade
  · refine wellMade.insert ((wellMade key found hget).congr ?_ ?_) _ _
    all_goals
      cases confirmation with
      | complete => rw [(CreationChain.settle_eq_ok hsettled).2]
      | incomplete path => rw [(CreationChain.settle_eq_ok hsettled).2]
      | failure => cases hsettled; rfl

/-! ## What a search finds -/

/-- A chain that was known stands under the key of the combination. -/
theorem get?_of_findOrRegister?
    (hfound : store.findOrRegister? insertions calls = some (later, false, found)) :
    ∃ combination, combination? insertions calls = some combination ∧
      store.chains.get? combination.key = some found := by
  unfold findOrRegister? at hfound
  obtain ⟨combination, hcombination, hresult⟩ := Option.map_eq_some_iff.mp hfound
  refine ⟨combination, hcombination, ?_⟩
  split at hresult
  case h_1 existing hget =>
    cases hresult
    exact hget
  case h_2 => cases hresult

/-- A chain that failed stood under the key of the POST calls. -/
theorem get?_of_confirmFailure (hfailed : store.confirmFailure calls = (later, some chain)) :
    ∃ found, chain = { found with status := .failed } ∧
      (calls.filter fun call => call.verb = .post).map Call.name ≠ [] ∧
      store.chains.get?
        ⟨.post, signatureOf ((calls.filter fun call => call.verb = .post).map Call.name)⟩ =
          some found := by
  unfold CreationStore.confirmFailure at hfailed
  dsimp only at hfailed
  split at hfailed
  case isTrue => cases hfailed
  case isFalse hnames =>
    split at hfailed
    case h_1 => cases hfailed
    case h_2 found hget =>
      cases hfailed
      exact ⟨found, rfl, by simpa using hnames, hget⟩

end CreationStore

namespace ResourceGroup

variable {group : ResourceGroup} {resource : Resource}

theorem stepCreations_wellMade (wellKeyed : resource.creations.WellKeyed)
    (wellMade : resource.creations.WellMade) (group : ResourceGroup)
    (operation : CreationOperation) :
    (group.stepCreations resource operation).1.creations.WellMade := by
  cases operation with
  | init withRows =>
      obtain ⟨inventory, templates, params, hinit⟩ := init_eq group resource withRows
      have hlater : (group.init resource withRows).1.creations.WellMade := by
        rw [hinit]
        dsimp only
        split
        · exact wellMade
        · exact wellMade.register (Resolution.wellMade_chain _)
      unfold stepCreations
      dsimp only
      split
      case h_1 later hcase => rwa [hcase] at hlater
      case h_2 later error hcase => rwa [hcase] at hlater
  | check insertions calls =>
      unfold stepCreations
      dsimp only
      split
      case h_1 => exact wellMade
      case h_2 store isNew chain hfound => exact wellMade.findOrRegister? hfound
  | confirmFailure calls => exact wellMade.confirmFailure wellKeyed calls
  | updateTemplateSize =>
      obtain ⟨templates, hsized⟩ := resource.updateTemplateSize_eq
      simp only [stepCreations, hsized]
      exact wellMade
  | confirm key confirmation =>
      unfold stepCreations
      dsimp only
      split
      case h_1 store hconfirm => exact wellMade.confirmAt hconfirm
      case h_2 => exact wellMade

/-! ## Reachable resources -/

/-- The resources whose chains come about by operations: new ones, those of a catalog, and what
an operation makes of them. -/
inductive Reachable (group : ResourceGroup) : Resource → Prop
  | fresh {resource : Resource} (hnone : resource.creations = {}) : Reachable group resource
  | built {config : Config} {endpoints : List Endpoint} {catalog : Catalog} {resource : Resource}
      (hbuilt : Catalog.ofEndpoints endpoints config = .ok catalog)
      (hresource : resource ∈ catalog.resources) : Reachable group resource
  | step {resource : Resource} (reachable : Reachable group resource)
      (operation : CreationOperation) :
      Reachable group (group.stepCreations resource operation).1

theorem Reachable.wellKept (reachable : group.Reachable resource) :
    resource.creations.WellKeyed ∧ resource.creations.WellMade := by
  induction reachable with
  | fresh hnone =>
      rw [hnone]
      exact ⟨CreationStore.wellKeyed_empty, CreationStore.wellMade_empty⟩
  | built hbuilt hresource =>
      rw [Catalog.creations_of_ofEndpoints hbuilt hresource]
      exact ⟨(CreationStore.wellKeyed_empty.register _).1,
        CreationStore.wellMade_empty.register (Resolution.wellMade_chain _)⟩
  | step reachable operation ih =>
      exact ⟨(stepCreations_keeps ih.1 group operation).wellKeyed,
        stepCreations_wellMade ih.1 ih.2 group operation⟩

end ResourceGroup

/-! ## Exact finds -/

/-- What is known of a chain that is found for some insertions and calls. -/
structure ExactFind (insertions : List Insertion) (calls : List Call) (chain : CreationChain) :
    Prop where
  signature_eq :
    chain.signature = signatureOf (insertions.map Insertion.table ++ calls.map Call.name)
  /-- Its participants are their tables and names exactly if the two sorted lists are not
  entangled. -/
  exact_iff :
    (∀ name, name ∈ chain.participants ↔
        name ∈ insertions.map Insertion.table ++ calls.map Call.name) ↔
      ¬ Entangled chain.participants
        (sortedSet (insertions.map Insertion.table ++ calls.map Call.name))
  exact_of_no_comma : (∀ name ∈ chain.participants, ',' ∉ name.toList) →
    (∀ name ∈ insertions.map Insertion.table ++ calls.map Call.name, ',' ∉ name.toList) →
      ∀ name, name ∈ chain.participants ↔
        name ∈ insertions.map Insertion.table ++ calls.map Call.name
  exact_of_plainPath : insertions = [] →
    (∀ call, CreationStep.call call ∈ chain.steps → PlainPath call.path) →
      (∀ call ∈ calls, PlainPath call.path) →
        ∀ name, name ∈ chain.participants ↔ name ∈ calls.map Call.name

private theorem name_ne_empty (call : Call) : call.name ≠ "" := by
  intro hempty
  have hlist := congrArg String.toList hempty
  unfold Call.name at hlist
  simp at hlist

/-- A well-made chain with the signature of some insertions and calls is an exact find. -/
theorem CreationChain.WellMade.exactFind_of_signature {chain : CreationChain} {insertions : List Insertion}
    {calls : List Call} (wellMade : chain.WellMade)
    (hsome : insertions.map Insertion.table ++ calls.map Call.name ≠ [])
    (hpost : chain.variant = .post ↔ insertions = [])
    (hsignature :
      chain.signature = signatureOf (insertions.map Insertion.table ++ calls.map Call.name)) :
    ExactFind insertions calls chain := by
  have hnames : chain.steps.map (participantName chain.variant) ≠ [] := by
    intro hnil
    have hsteps : chain.steps = [] := List.map_eq_nil_iff.mp hnil
    -- only a chain of POST calls can be empty, and then the signature is that of some calls
    have hvariant : chain.variant = .post := by
      by_contra hvariant
      exact wellMade.steps_ne_nil hvariant hsteps
    obtain rfl := hpost.mp hvariant
    have hempty : chain.signature = "" := by
      unfold CreationChain.signature signatureOf
      rw [hnil, sortedSet_eq_self List.Pairwise.nil, String.intercalate_nil]
    refine signatureOf_ne_empty hsome ?_ (hsignature ▸ hempty)
    intro name hname
    obtain ⟨call, -, rfl⟩ := List.mem_map.mp hname
    exact name_ne_empty call
  have hexact := mem_iff_iff_not_entangled hnames hsome hsignature
  have hmem : ∀ name, name ∈ chain.participants ↔
      name ∈ chain.steps.map (participantName chain.variant) := fun name => mem_sortedSet
  have hiff : (∀ name, name ∈ chain.participants ↔
      name ∈ insertions.map Insertion.table ++ calls.map Call.name) ↔
        ¬ Entangled chain.participants
          (sortedSet (insertions.map Insertion.table ++ calls.map Call.name)) := by
    simp only [hmem]
    exact hexact
  constructor
  case signature_eq => exact hsignature
  case exact_iff => exact hiff
  case exact_of_no_comma =>
    intro hchain hothers
    refine hiff.mpr (not_entangled_of_no_comma hchain ?_)
    intro name hname
    exact hothers name (mem_sortedSet.mp hname)
  case exact_of_plainPath =>
    rintro rfl hchain hothers
    refine hiff.mpr (not_entangled_of_plainPath ?_ ?_)
    · intro name hname
      obtain ⟨step, hstep, rfl⟩ := List.mem_map.mp ((hmem name).mp hname)
      obtain ⟨call, rfl⟩ := wellMade.call_of_post (hpost.mpr rfl) step hstep
      rw [hpost.mpr rfl]
      exact ⟨call, rfl, hchain call hstep⟩
    · intro name hname
      obtain ⟨call, hcall, rfl⟩ := List.mem_map.mp (mem_sortedSet.mp hname)
      exact ⟨call, rfl, hothers call hcall⟩

namespace ResourceGroup

variable {group : ResourceGroup} {resource : Resource}

/-- Every chain that is found, as one that is known already or as one that failed, is an exact
find. -/
theorem exactFind (reachable : group.Reachable resource) :
    (∀ insertions calls chain,
      (group.stepCreations resource (.check insertions calls)).2 = .chain false chain →
        ExactFind insertions calls chain) ∧
    ∀ calls chain,
      (group.stepCreations resource (.confirmFailure calls)).2 = .failed (some chain) →
        ExactFind [] (calls.filter fun call => call.verb = .post) chain := by
  obtain ⟨wellKeyed, wellMade⟩ := reachable.wellKept
  constructor
  · intro insertions calls chain hanswer
    unfold stepCreations at hanswer
    dsimp only at hanswer
    split at hanswer
    case h_1 => cases hanswer
    case h_2 store isNew found hfound =>
      cases hanswer
      obtain ⟨combination, hcombination, hget⟩ := CreationStore.get?_of_findOrRegister? hfound
      obtain ⟨-, hsteps, hsome, hpost⟩ := CreationStore.combination?_spec hcombination
      have hkey := wellKeyed.key_eq_of_get? hget
      have hvariant : chain.variant = combination.variant := congrArg ChainKey.variant hkey
      refine (wellMade _ chain hget).exactFind_of_signature hsome (by rw [hvariant, hpost]) ?_
      rw [← hsteps]
      exact congrArg ChainKey.signature hkey
  · intro calls chain hanswer
    unfold stepCreations at hanswer
    dsimp only at hanswer
    cases hconfirm : resource.creations.confirmFailure calls with
    | mk store answer =>
        rw [hconfirm] at hanswer
        cases hanswer
        obtain ⟨found, rfl, hsome, hget⟩ := CreationStore.get?_of_confirmFailure hconfirm
        have hkey := wellKeyed.key_eq_of_get? hget
        have hvariant : found.variant = .post := congrArg ChainKey.variant hkey
        have hfailed : ({ found with status := .failed } : CreationChain).WellMade :=
          (wellMade _ found hget).congr rfl rfl
        refine hfailed.exactFind_of_signature hsome (by simp [hvariant]) ?_
        exact congrArg ChainKey.signature hkey

/-! ## Insertions into two tables -/

/-- The chain of a row in `a` and one in `b`. -/
def chainAB : CreationChain :=
  { variant := .db, steps := [.insertion ⟨"a"⟩, .insertion ⟨"b"⟩], status := .complete }

/-- A resource that has registered this chain and no other one. -/
def resourceAB : Resource :=
  (stepCreations [] { path := Path.ofText "/a", calls := [] } (.check [⟨"a"⟩, ⟨"b"⟩] [])).1

theorem reachable_resourceAB : Reachable [] resourceAB := .step (.fresh rfl) _

/-- The chain is found for any insertions with its signature. -/
theorem check_resourceAB {insertions : List Insertion} (hsome : insertions ≠ [])
    (hsignature : signatureOf (insertions.map Insertion.table) = signatureOf ["a", "b"]) :
    (stepCreations [] resourceAB (.check insertions [])).2 = .chain false chainAB := by
  obtain ⟨first, rest, rfl⟩ := List.exists_cons_of_ne_nil hsome
  have hkey : CreationChain.key
      { variant := .db, steps := (first :: rest).map CreationStep.insertion ++ [] } =
        chainAB.key := by
    unfold CreationChain.key CreationChain.signature
    rw [List.append_nil, List.map_map]
    exact congrArg (ChainKey.mk .db) hsignature
  have hget : resourceAB.creations.chains.get? chainAB.key = some chainAB :=
    OrderedMap.get?_insert_self {} chainAB.key chainAB
  have hfound : resourceAB.creations.findOrRegister? (first :: rest) [] =
      some (resourceAB.creations, false, chainAB) :=
    CreationStore.findOrRegister?_known rfl (hkey ▸ hget)
  unfold stepCreations
  simp only [hfound]

theorem exactFind_resourceAB :
    Reachable [] resourceAB ∧
      (stepCreations [] resourceAB (.check [⟨"b"⟩, ⟨"a"⟩] [])).2 = .chain false chainAB ∧
      ExactFind [⟨"b"⟩, ⟨"a"⟩] [] chainAB := by
  have hcheck : (stepCreations [] resourceAB (.check [⟨"b"⟩, ⟨"a"⟩] [])).2 =
      .chain false chainAB := by
    refine check_resourceAB (by simp) (signatureOf_congr ?_)
    intro name
    simp [or_comm]
  exact ⟨reachable_resourceAB, hcheck, (exactFind reachable_resourceAB).1 _ _ _ hcheck⟩

/-- A single insertion into the table `a,b` finds the chain of the insertions into `a` and
`b`. -/
theorem not_exactFind_comma :
    Reachable [] resourceAB ∧
      (stepCreations [] resourceAB (.check [⟨"a,b"⟩] [])).2 = .chain false chainAB ∧
      ¬ ∀ name, name ∈ chainAB.participants ↔
        name ∈ ([⟨"a,b"⟩] : List Insertion).map Insertion.table ++ [].map Call.name := by
  refine ⟨reachable_resourceAB, check_resourceAB (by simp) ?_, ?_⟩
  · have hone : sortedSet ["a,b"] = ["a,b"] := sortedSet_eq_self (List.pairwise_singleton _ _)
    have htwo : sortedSet ["a", "b"] = ["a", "b"] := sortedSet_eq_self (by decide)
    unfold signatureOf
    rw [List.map_singleton, hone, htwo]
    decide
  · intro hsame
    have hmem : "a" ∈ chainAB.participants := mem_sortedSet.mpr List.mem_cons_self
    have hother := (hsame "a").mp hmem
    simp at hother

end ResourceGroup

end RestCatalog
