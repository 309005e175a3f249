import RestCatalog.Call.Basic

/-!
# Creation chains

A chain is a list of steps, insertions and calls, that bring a resource into
existence.  It starts with an unknown status, is settled as complete or
incomplete, and fails for ever once a run has proved it wrong.  A chain is
identified by the set of its participants.
-/

namespace RestCatalog

inductive ChainVariant where
  /-- A chain of no particular kind. -/
  | plain
  /-- POST calls, outermost creator first. -/
  | post
  /-- Row insertions, identified by their tables. -/
  | db
  /-- Row insertions followed by POST calls. -/
  | composite
deriving DecidableEq, Repr

def ChainVariant.text : ChainVariant → String
  | .plain => "abstract"
  | .post => "post"
  | .db => "db"
  | .composite => "composite"

/-- The name under which a chain of a variant is shown. -/
def ChainVariant.displayName : ChainVariant → String
  | .plain => "CreationChain"
  | .post => "PostCreationChain"
  | .db => "DBCreationChain"
  | .composite => "CompositeCreationChain"

inductive CreationStatus where
  | unknown
  | complete
  | incomplete
  | failed
deriving DecidableEq, Repr

def CreationStatus.text : CreationStatus → String
  | .unknown => "UNKNOWN"
  | .complete => "COMPLETE"
  | .incomplete => "INCOMPLETE"
  | .failed => "FAILED"

/-- One step of a chain. -/
inductive CreationStep where
  | call (call : Call)
  | insertion (insertion : Insertion)
deriving DecidableEq, Repr

namespace CreationStep

def name : CreationStep → String
  | .call step => step.name
  | .insertion step => step.name

/-- The name of a step where insertions are known by their tables. -/
def tableOrName : CreationStep → String
  | .call step => step.name
  | .insertion step => step.table

def isInsertion : CreationStep → Bool
  | .call _ => false
  | .insertion _ => true

end CreationStep

/-- A text list in code point order without repetitions. -/
def sortedSet (names : List String) : List String :=
  (names.mergeSort fun a b => decide (a ≤ b)).eraseDups

/-- The signature of a set of participants. -/
def signatureOf (names : List String) : String := ",".intercalate (sortedSet names)

/-- What is found out about a chain. -/
inductive Confirmation where
  | complete
  /-- The creation at a path is unresolved. -/
  | incomplete (path : String)
  /-- A run has proved the chain wrong. -/
  | failure
deriving DecidableEq, Repr

/-- Why a chain cannot be made or settled. -/
inductive ChainError where
  /-- A chain of insertions was given a call. -/
  | callAmongInsertions
  /-- The chain has failed before. -/
  | alreadyFailed (variant : ChainVariant) (signature : String)
deriving DecidableEq, Repr

def ChainError.message : ChainError → String
  | .callAmongInsertions => "a chain of insertions cannot hold a call"
  | .alreadyFailed variant signature =>
    variant.text ++ " chain " ++ Text.quoted signature ++ " is already failed"

structure CreationChain where
  variant : ChainVariant
  steps : List CreationStep := []
  status : CreationStatus := .unknown
  /-- The path whose creation is unresolved in an incomplete chain. -/
  unresolvedPath : Option String := none
deriving DecidableEq, Repr

namespace CreationChain

/-- The name under which a step takes part in a chain of a variant. -/
def participantName : ChainVariant → CreationStep → String
  | .plain, step => step.name
  | .post, step => step.name
  | .db, step => step.tableOrName
  | .composite, step => step.tableOrName

/-- The names of the steps as a set: sorted, without repetitions. -/
def participants (chain : CreationChain) : List String :=
  sortedSet (chain.steps.map (participantName chain.variant))

def signature (chain : CreationChain) : String :=
  signatureOf (chain.steps.map (participantName chain.variant))

def isComplete (chain : CreationChain) : Bool := chain.status = .complete

def isFailed (chain : CreationChain) : Bool := chain.status = .failed

/-- The chain of steps that was not settled yet; a chain of insertions holds nothing else. -/
def ofSteps (variant : ChainVariant) (steps : List CreationStep) :
    Except ChainError CreationChain :=
  if variant = .db && !steps.all CreationStep.isInsertion then .error .callAmongInsertions
  else .ok { variant, steps }

/-- Settles a chain unless it has failed. -/
def settle (chain settled : CreationChain) : Except ChainError CreationChain :=
  if chain.isFailed then .error (.alreadyFailed chain.variant chain.signature) else .ok settled

/-- A chain after a confirmation.  Only failure can be confirmed of a chain that has failed. -/
def confirm (chain : CreationChain) : Confirmation → Except ChainError CreationChain
  | .complete => chain.settle { chain with status := .complete }
  | .incomplete path =>
    chain.settle { chain with status := .incomplete, unresolvedPath := some path }
  | .failure => .ok { chain with status := .failed }

/-- A chain as it is shown. -/
def display (chain : CreationChain) : String :=
  chain.variant.displayName ++ "(" ++ Text.quoted chain.signature ++ ", " ++ chain.status.text ++
    ")"

end CreationChain

end RestCatalog
