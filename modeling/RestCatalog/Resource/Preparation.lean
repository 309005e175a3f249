import RestCatalog.Resource.Closest

/-!
# Preparing the resources of a call

In front of a target call the POST calls are put that create what it works on: the
closest POST on the target's path or above, in front of it the POST that
this one depends on, and so forth.  The location that a POST announces is handed
on to the next call: a POST on another path keeps it for the call behind it, and
one on the same path passes on the location it was filled from itself.
-/

namespace RestCatalog

/-- How the preparation of a call ended. -/
inductive PreparationStatus where
  | created
  | notEnoughLength
  | notFound
  | notFoundDependent
deriving DecidableEq, Repr

def PreparationStatus.text : PreparationStatus → String
  | .created => "CREATED"
  | .notEnoughLength => "NOT_ENOUGH_LENGTH"
  | .notFound => "NOT_FOUND"
  | .notFoundDependent => "NOT_FOUND_DEPENDENT"

/-- The calls to be put in front of a target, and the target with its location. -/
structure Preparation where
  status : PreparationStatus
  inserted : List Call := []
  target : Call
deriving DecidableEq, Repr

/-- Hands the location of a POST on to the call behind it. -/
def handOver (post target : Call) : Call × Call :=
  if post.restPath.isEquivalent target.restPath then
    ({ post with savesLocation := false }, { target with locationId := post.locationId })
  else
    ({ post with savesLocation := true }, { target with locationId := some post.restPath.lastText })

namespace ResourceGroup

variable {σ : Type} [ChoiceSource σ] (group : ResourceGroup)

/-- Puts the calls that create a target in front of it.  `length` is the length of the sequence
so far and `limit` the one it must stay under, if any; `remaining` bounds how many calls are put
in front, so the search ends. -/
def prepareFor (resource : Resource) (limit : Option Int) :
    (remaining : Nat) → (length : Nat) → (target : Call) → Chooser σ → Preparation × Chooser σ
  | 0, _, target, chooser => (⟨.notFoundDependent, [], target⟩, chooser)
  | remaining + 1, length, target, chooser =>
    if limit.any fun (most : Int) => most ≤ (length : Int) then
      (⟨.notEnoughLength, [], target⟩, chooser)
    else
      match group.chooseClosest resource target [.post] chooser with
      | (none, chooser) =>
        (⟨if target.verb = .post then .created else .notFound, [], target⟩, chooser)
      | (some pattern, chooser) =>
        let post := pattern.createdFor target
        if !post.restPath.needsDependency then
          let (post, target) := handOver post target
          (⟨.created, [post], target⟩, chooser)
        else if remaining = 0 then (⟨.notFoundDependent, [post], target⟩, chooser)
        else
          match prepareFor resource limit remaining (length + 1) post chooser with
          | (⟨.created, inserted, post⟩, chooser) =>
            let (post, target) := handOver post target
            (⟨.created, inserted ++ [post], target⟩, chooser)
          | (⟨_, inserted, post⟩, chooser) =>
            (⟨.notFoundDependent, inserted ++ [post], target⟩, chooser)

/-- Prepares a target at the end of a sequence of `length` calls.  Without a limit the sequence
may grow as long as it has to. -/
def prepare (resource : Resource) (limit : Option Int) (length : Nat) (target : Call)
    (chooser : Chooser σ) : Preparation × Chooser σ :=
  group.prepareFor resource limit (resource.ancestors.length + 1) length target chooser

end ResourceGroup

end RestCatalog
