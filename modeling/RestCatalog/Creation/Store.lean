import RestCatalog.Creation.Chain
import RestCatalog.OrderedMap

/-!
# The chains of a resource

The store keeps one chain for each variant and set of participants, in the order
in which they were registered, and remembers which chain of POST calls was
settled last.  A failed chain is never replaced.
-/

namespace RestCatalog

/-- What a chain is stored under: its variant and its signature. -/
structure ChainKey where
  variant : ChainVariant
  signature : String
deriving DecidableEq, Repr

def CreationChain.key (chain : CreationChain) : ChainKey := ⟨chain.variant, chain.signature⟩

structure CreationStore where
  chains : OrderedMap ChainKey CreationChain := {}
  /-- The key of the POST chain whose status was settled last. -/
  lastPost : Option ChainKey := none
deriving DecidableEq

namespace CreationStore

/-- The POST chain whose status was settled last. -/
def postChain? (store : CreationStore) : Option CreationChain :=
  store.lastPost.bind store.chains.get?

/-- Stores a chain unless a failed one has its key, and answers the one that is stored. -/
def register (store : CreationStore) (chain : CreationChain) : CreationStore × CreationChain :=
  let kept := match store.chains.get? chain.key with
    | some existing => if existing.isFailed then existing else chain
    | none => chain
  ({ chains := store.chains.insert chain.key kept
     lastPost := if kept.variant = .post then some chain.key else store.lastPost }, kept)

/-- The chain that insertions and calls together would make; none without any. -/
def combination? (insertions : List Insertion) (calls : List Call) : Option CreationChain :=
  let steps := insertions.map CreationStep.insertion ++ calls.map CreationStep.call
  match insertions, calls with
  | [], [] => none
  | [], _ => some { variant := .post, steps }
  | _, [] => some { variant := .db, steps }
  | _, _ => some { variant := .composite, steps }

/-- Looks the chain of these steps up, or registers it as a complete one.  The answer tells
whether it is new; none if there are no steps. -/
def findOrRegister? (store : CreationStore) (insertions : List Insertion) (calls : List Call) :
    Option (CreationStore × Bool × CreationChain) :=
  (combination? insertions calls).map fun chain =>
    match store.chains.get? chain.key with
    | some existing => (store, false, existing)
    | none =>
      let (store, kept) := store.register { chain with status := .complete }
      (store, true, kept)

/-- Marks the chain of exactly the POST calls among `calls` as failed, and answers it. -/
def confirmFailure (store : CreationStore) (calls : List Call) :
    CreationStore × Option CreationChain :=
  let names := (calls.filter fun call => call.verb = .post).map Call.name
  if names.isEmpty then (store, none)
  else
    let key : ChainKey := ⟨.post, signatureOf names⟩
    match store.chains.get? key with
    | none => (store, none)
    | some chain =>
      let failed := { chain with status := .failed }
      ({ chains := store.chains.insert key failed, lastPost := some key }, some failed)

/-- Confirms something about the chain at a key. -/
def confirmAt (store : CreationStore) (key : ChainKey) (confirmation : Confirmation) :
    Except ChainError CreationStore :=
  match store.chains.get? key with
  | none => .ok store
  | some chain =>
    (chain.confirm confirmation).map fun settled =>
      { store with chains := store.chains.insert key settled }

end CreationStore

end RestCatalog
