import RestCatalog.Creation.Store
import RestCatalog.Proofs.Creation.Participants
import RestCatalog.Proofs.OrderedMap

/-!
# What the operations on a store keep

`WellKeyed` is the invariant of a store: every chain stands under its own key, and the
chain that was settled last is a chain of POST calls in the store.  `KeptIn` relates a
store to a later one: the keys stay in their order, and failed chains stay what they
are.

All four operations write at most one chain, under its own key, and none of them puts
something else in the place of a failed chain.  `WellKeyed.write` is what such a write
does to both relations, and each operation is brought into its form:

* `register_eq`: registering writes a chain with the key of the given one;
* `findOrRegister?_known` and `findOrRegister?_new`: a look-up that finds a chain writes
  nothing;
* `confirmFailure_eq`: marking as failed writes the chain of the POST calls;
* `confirmAt_eq_ok`: a confirmation writes the chain that it is about.
-/

namespace RestCatalog

namespace CreationChain

/-- The key of a chain does not depend on what is found out about it. -/
theorem key_congr {chain other : CreationChain} (hvariant : chain.variant = other.variant)
    (hsteps : chain.steps = other.steps) : chain.key = other.key := by
  unfold key signature
  rw [hvariant, hsteps]

/-- Chains of one variant with the same participants have one key. -/
theorem key_eq_of_participants {chain other : CreationChain}
    (hvariant : chain.variant = other.variant)
    (hsame : ∀ name, name ∈ chain.participants ↔ name ∈ other.participants) :
    chain.key = other.key := by
  unfold key signature
  rw [hvariant]
  congr 1
  apply signatureOf_congr
  intro name
  have hname := hsame name
  unfold participants at hname
  rw [mem_sortedSet, mem_sortedSet, hvariant] at hname
  exact hname

theorem settle_eq_ok {chain settled result : CreationChain}
    (hsettle : chain.settle settled = .ok result) :
    chain.isFailed = false ∧ result = settled := by
  unfold settle at hsettle
  split at hsettle
  case isTrue => cases hsettle
  case isFalse hfailed =>
    cases hsettle
    exact ⟨Bool.eq_false_iff.mpr hfailed, rfl⟩

/-- A confirmation that is not refused keeps the key of a chain, and leaves a failed chain as
it is. -/
theorem confirm_eq_ok {chain settled : CreationChain} {confirmation : Confirmation}
    (hconfirm : chain.confirm confirmation = .ok settled) :
    settled.key = chain.key ∧ (chain.isFailed = true → settled = chain) := by
  cases confirmation with
  | complete =>
      obtain ⟨hfailed, rfl⟩ := settle_eq_ok hconfirm
      exact ⟨key_congr rfl rfl, fun h => absurd h (Bool.eq_false_iff.mp hfailed)⟩
  | incomplete path =>
      obtain ⟨hfailed, rfl⟩ := settle_eq_ok hconfirm
      exact ⟨key_congr rfl rfl, fun h => absurd h (Bool.eq_false_iff.mp hfailed)⟩
  | failure =>
      cases hconfirm
      refine ⟨key_congr rfl rfl, ?_⟩
      intro hfailed
      have hstatus : chain.status = .failed := by simpa [isFailed] using hfailed
      rw [← hstatus]

end CreationChain

namespace CreationStore

variable {store later : CreationStore} {chain : CreationChain} {key : ChainKey}

/-! ## The invariant and what is kept -/

/-- Every chain stands under its own key, no key is used twice, and the chain that was settled
last is a stored chain of POST calls. -/
structure WellKeyed (store : CreationStore) : Prop where
  nodup_keys : store.chains.keys.Nodup
  key_eq : ∀ entry ∈ store.chains.entries, entry.2.key = entry.1
  lastPost_known : ∀ key, store.lastPost = some key →
    key.variant = .post ∧ key ∈ store.chains.keys

/-- What a later store has kept: the keys in their order, and every failed chain. -/
structure KeptIn (store later : CreationStore) : Prop where
  keys_prefix : store.chains.keys <+: later.chains.keys
  failed_kept : ∀ key chain, store.chains.get? key = some chain → chain.isFailed = true →
    later.chains.get? key = some chain

theorem KeptIn.refl (store : CreationStore) : store.KeptIn store :=
  ⟨List.prefix_refl _, fun _ _ hget _ => hget⟩

theorem KeptIn.trans {first second third : CreationStore} (kept : first.KeptIn second)
    (kept' : second.KeptIn third) : first.KeptIn third := by
  refine ⟨kept.keys_prefix.trans kept'.keys_prefix, ?_⟩
  intro key chain hget hfailed
  exact kept'.failed_kept key chain (kept.failed_kept key chain hget hfailed) hfailed

theorem KeptIn.mem_keys (kept : store.KeptIn later) (hkey : key ∈ store.chains.keys) :
    key ∈ later.chains.keys :=
  kept.keys_prefix.subset hkey

theorem wellKeyed_empty : WellKeyed {} := by
  refine ⟨List.nodup_nil, ?_, ?_⟩
  · intro entry hentry
    cases hentry
  · intro key hlast
    cases hlast

namespace WellKeyed

variable (wellKeyed : store.WellKeyed)
include wellKeyed

theorem key_eq_of_get? (hget : store.chains.get? key = some chain) : chain.key = key :=
  wellKeyed.key_eq (key, chain) (OrderedMap.mem_entries_of_get? hget)

/-- The chain that was settled last is there. -/
theorem postChain?_eq (hlast : store.lastPost = some key) :
    ∃ chain, store.postChain? = some chain ∧ chain.key = key ∧ chain.variant = .post := by
  obtain ⟨hvariant, hknown⟩ := wellKeyed.lastPost_known key hlast
  obtain ⟨chain, hget⟩ := OrderedMap.mem_keys_iff.mp hknown
  have hkey := wellKeyed.key_eq_of_get? hget
  refine ⟨chain, ?_, hkey, ?_⟩
  · unfold postChain?
    rw [hlast, Option.bind_some, hget]
  · rw [← hvariant, ← hkey]
    rfl

/-- Writing a chain under its key keeps a store in order, unless it takes the place of a failed
one. -/
theorem write (chain : CreationChain) (last : Option ChainKey)
    (hfailed : ∀ existing, store.chains.get? chain.key = some existing →
      existing.isFailed = true → chain = existing)
    (hlast : last = store.lastPost ∨ last = some chain.key ∧ chain.variant = .post) :
    WellKeyed { chains := store.chains.insert chain.key chain, lastPost := last } ∧
      store.KeptIn { chains := store.chains.insert chain.key chain, lastPost := last } := by
  have hprefix := OrderedMap.keys_prefix_insert store.chains chain.key chain
  have hnodup := OrderedMap.nodup_keys_insert wellKeyed.nodup_keys chain.key chain
  refine ⟨⟨hnodup, ?_, ?_⟩, hprefix, ?_⟩
  · rintro ⟨key, found⟩ hentry
    have hget := (OrderedMap.get?_eq_some_iff hnodup).mpr hentry
    rw [OrderedMap.get?_insert] at hget
    split at hget
    case isTrue hkey => rw [← Option.some.inj hget, hkey]
    case isFalse => exact wellKeyed.key_eq_of_get? hget
  · intro key hkey
    dsimp only at hkey ⊢
    -- the pointer stays where it is or moves to the chain that was written
    rcases hlast with rfl | ⟨rfl, hvariant⟩
    · obtain ⟨hpost, hknown⟩ := wellKeyed.lastPost_known key hkey
      exact ⟨hpost, hprefix.subset hknown⟩
    · cases hkey
      refine ⟨hvariant, OrderedMap.mem_keys_iff.mpr ⟨chain, ?_⟩⟩
      exact OrderedMap.get?_insert_self _ _ _
  · intro key found hget hfound
    dsimp only
    rw [OrderedMap.get?_insert]
    split
    case isTrue hkey =>
      rw [hkey] at hget
      rw [hfailed found hget hfound]
    case isFalse => exact hget

end WellKeyed

/-! ## Registering -/

theorem register_of_new (hnew : store.chains.get? chain.key = none) :
    store.register chain =
      ({ chains := store.chains.insert chain.key chain
         lastPost := if chain.variant = .post then some chain.key else store.lastPost }, chain) := by
  unfold register
  simp only [hnew]

/-- Registering writes a chain with the key of the given one: a failed one that has the key, or
the chain itself. -/
theorem WellKeyed.register_eq (wellKeyed : store.WellKeyed) (chain : CreationChain) :
    ∃ kept : CreationChain, kept.key = chain.key ∧
      (∀ existing, store.chains.get? chain.key = some existing → existing.isFailed = true →
        kept = existing) ∧
      store.register chain =
        ({ chains := store.chains.insert kept.key kept
           lastPost := if chain.variant = .post then some chain.key else store.lastPost }, kept) := by
  cases hget : store.chains.get? chain.key with
  | none =>
      refine ⟨chain, rfl, ?_, register_of_new hget⟩
      intro existing hexisting
      cases hexisting
  | some existing =>
      unfold CreationStore.register
      -- a failed chain is kept, any other one makes way
      by_cases hfailed : existing.isFailed = true
      · have hkey := wellKeyed.key_eq_of_get? hget
        have hvariant : existing.variant = chain.variant := congrArg ChainKey.variant hkey
        refine ⟨existing, hkey, ?_, ?_⟩
        · intro other hother _
          exact Option.some.inj hother
        · simp only [hget, hfailed, if_true, hvariant, hkey]
      · refine ⟨chain, rfl, ?_, ?_⟩
        · intro other hother hfailed'
          rw [← Option.some.inj hother] at hfailed'
          exact absurd hfailed' hfailed
        · simp only [hget, hfailed, if_false, Bool.false_eq_true]

theorem WellKeyed.register (wellKeyed : store.WellKeyed) (chain : CreationChain) :
    (store.register chain).1.WellKeyed ∧ store.KeptIn (store.register chain).1 ∧
      chain.key ∈ (store.register chain).1.chains.keys := by
  obtain ⟨kept, hkey, hfailed, hregister⟩ := wellKeyed.register_eq chain
  have hvariant : kept.variant = chain.variant := congrArg ChainKey.variant hkey
  have hwrite := wellKeyed.write kept
    (if chain.variant = .post then some chain.key else store.lastPost)
    (by rwa [hkey]) (by
      split
      case isTrue hpost => exact .inr ⟨by rw [hkey], hvariant.trans hpost⟩
      case isFalse => exact .inl rfl)
  rw [hregister]
  refine ⟨hwrite.1, hwrite.2, OrderedMap.mem_keys_iff.mpr ⟨kept, ?_⟩⟩
  rw [← hkey]
  exact OrderedMap.get?_insert_self _ _ _

/-- A chain of POST calls is the one that was settled last once it is registered. -/
theorem WellKeyed.lastPost_register (wellKeyed : store.WellKeyed) (chain : CreationChain) :
    (store.register chain).1.lastPost =
      if chain.variant = .post then some chain.key else store.lastPost := by
  obtain ⟨kept, -, -, hregister⟩ := wellKeyed.register_eq chain
  rw [hregister]

/-! ## Looking a combination up -/

theorem findOrRegister?_known {insertions : List Insertion} {calls : List Call}
    {existing : CreationChain} (hcombination : combination? insertions calls = some chain)
    (hget : store.chains.get? chain.key = some existing) :
    store.findOrRegister? insertions calls = some (store, false, existing) := by
  unfold findOrRegister?
  rw [hcombination, Option.map_some]
  simp only [hget]

theorem findOrRegister?_new {insertions : List Insertion} {calls : List Call}
    (hcombination : combination? insertions calls = some chain)
    (hget : store.chains.get? chain.key = none) :
    store.findOrRegister? insertions calls =
      some ((store.register { chain with status := .complete }).1, true,
        { chain with status := .complete }) := by
  have hkey : ({ chain with status := .complete } : CreationChain).key = chain.key :=
    CreationChain.key_congr rfl rfl
  unfold findOrRegister?
  rw [hcombination, Option.map_some]
  simp only [hget]
  unfold CreationStore.register
  simp only [hkey, hget]

/-- Every combination is stored once it was looked up. -/
theorem mem_keys_of_findOrRegister? {insertions : List Insertion} {calls : List Call}
    (wellKeyed : store.WellKeyed) (hcombination : combination? insertions calls = some chain) :
    ∃ (next : CreationStore) (isNew : Bool) (found : CreationChain),
      store.findOrRegister? insertions calls = some (next, isNew, found) ∧
        chain.key ∈ next.chains.keys := by
  cases hget : store.chains.get? chain.key with
  | some existing =>
      exact ⟨store, false, existing, findOrRegister?_known hcombination hget,
        OrderedMap.mem_keys_iff.mpr ⟨existing, hget⟩⟩
  | none =>
      have hregister := wellKeyed.register { chain with status := .complete }
      exact ⟨_, true, _, findOrRegister?_new hcombination hget, hregister.2.2⟩

/-- A combination with the participants of a chain whose key is known is found under it. -/
theorem findOrRegister?_of_participants {insertions : List Insertion} {calls : List Call}
    {combination : CreationChain} (hkey : chain.key ∈ store.chains.keys)
    (hcombination : combination? insertions calls = some combination)
    (hvariant : combination.variant = chain.variant)
    (hsame : ∀ name, name ∈ combination.participants ↔ name ∈ chain.participants) :
    ∃ stored, store.chains.get? chain.key = some stored ∧
      store.findOrRegister? insertions calls = some (store, false, stored) := by
  obtain ⟨stored, hget⟩ := OrderedMap.mem_keys_iff.mp hkey
  refine ⟨stored, hget, findOrRegister?_known hcombination ?_⟩
  rw [CreationChain.key_eq_of_participants hvariant hsame, hget]

/-! ## Confirming -/

/-- Marking as failed does nothing, or writes the chain of the POST calls, which is then the
one that was settled last. -/
theorem WellKeyed.confirmFailure_eq (wellKeyed : store.WellKeyed) (calls : List Call) :
    store.confirmFailure calls = (store, none) ∨
      ∃ found : CreationChain, store.chains.get? found.key = some found ∧
        found.variant = .post ∧
        store.confirmFailure calls =
          ({ chains := store.chains.insert found.key { found with status := .failed }
             lastPost := some found.key }, some { found with status := .failed }) := by
  unfold confirmFailure
  dsimp only
  split
  · exact .inl rfl
  · cases hget : store.chains.get?
        ⟨.post, signatureOf ((calls.filter fun call => call.verb = .post).map Call.name)⟩ with
    | none => exact .inl rfl
    | some found =>
        have hkey := wellKeyed.key_eq_of_get? hget
        refine .inr ⟨found, ?_, ?_, ?_⟩
        · rw [hkey, hget]
        · exact congrArg ChainKey.variant hkey
        · rw [hkey]

/-- Calls whose POSTs are the steps of a stored chain confirm its failure. -/
theorem confirmFailure_of_steps {calls : List Call} (hpost : chain.variant = .post)
    (hget : store.chains.get? chain.key = some chain) (hsteps : chain.steps ≠ [])
    (hnames : ((calls.filter fun call => call.verb = .post).map Call.name) =
      chain.steps.map CreationStep.name) :
    store.confirmFailure calls =
      ({ chains := store.chains.insert chain.key { chain with status := .failed }
         lastPost := some chain.key }, some { chain with status := .failed }) := by
  have hkey : (⟨.post, signatureOf (chain.steps.map CreationStep.name)⟩ : ChainKey) = chain.key := by
    unfold CreationChain.key CreationChain.signature
    rw [hpost]
    rfl
  unfold confirmFailure
  dsimp only
  rw [hnames, hkey, hget, if_neg (by simpa using hsteps)]

theorem WellKeyed.confirmFailure (wellKeyed : store.WellKeyed) (calls : List Call) :
    (store.confirmFailure calls).1.WellKeyed ∧ store.KeptIn (store.confirmFailure calls).1 := by
  rcases wellKeyed.confirmFailure_eq calls with hnone | ⟨found, hget, hvariant, hfound⟩
  · rw [hnone]
    exact ⟨wellKeyed, .refl store⟩
  · have hkey : ({ found with status := .failed } : CreationChain).key = found.key :=
      CreationChain.key_congr rfl rfl
    have hfailure : found.confirm .failure = .ok { found with status := .failed } := rfl
    have hwrite := wellKeyed.write { found with status := .failed } (some found.key)
      (by
        intro existing hexisting hfailed
        rw [hkey, hget] at hexisting
        obtain rfl := Option.some.inj hexisting
        exact (CreationChain.confirm_eq_ok hfailure).2 hfailed)
      (.inr ⟨by rw [hkey], hvariant⟩)
    rw [hkey] at hwrite
    rw [hfound]
    exact hwrite

theorem confirmAt_eq_ok {confirmation : Confirmation}
    (hconfirm : store.confirmAt key confirmation = .ok later) :
    later = store ∨
      ∃ found settled : CreationChain, store.chains.get? key = some found ∧
        found.confirm confirmation = .ok settled ∧
        later = { store with chains := store.chains.insert key settled } := by
  unfold confirmAt at hconfirm
  cases hget : store.chains.get? key with
  | none =>
      rw [hget] at hconfirm
      cases hconfirm
      exact .inl rfl
  | some found =>
      rw [hget] at hconfirm
      dsimp only at hconfirm
      cases hsettled : found.confirm confirmation with
      | error error => simp [hsettled, Except.map] at hconfirm
      | ok settled =>
          simp only [hsettled, Except.map, Except.ok.injEq] at hconfirm
          exact .inr ⟨found, settled, rfl, hsettled, hconfirm.symm⟩

theorem WellKeyed.confirmAt (wellKeyed : store.WellKeyed) {confirmation : Confirmation}
    (hconfirm : store.confirmAt key confirmation = .ok later) :
    later.WellKeyed ∧ store.KeptIn later ∧ later.lastPost = store.lastPost := by
  rcases confirmAt_eq_ok hconfirm with rfl | ⟨found, settled, hget, hsettled, rfl⟩
  · exact ⟨wellKeyed, .refl _, rfl⟩
  · obtain ⟨hkey, hsame⟩ := CreationChain.confirm_eq_ok hsettled
    rw [wellKeyed.key_eq_of_get? hget] at hkey
    have hwrite := wellKeyed.write settled store.lastPost
      (by
        intro existing hexisting hfailed
        rw [hkey, hget] at hexisting
        obtain rfl := Option.some.inj hexisting
        exact hsame hfailed)
      (.inl rfl)
    rw [hkey] at hwrite
    exact ⟨hwrite.1, hwrite.2, rfl⟩

end CreationStore

end RestCatalog
