import RestCatalog.Proofs.Preparation.Step

/-!
# The runs of a preparation

A preparation looks for the closest POST of its target, prepares that POST in turn if it
needs another resource, and comes back with the calls to put in front.  `PreparationRun`
tells this story with one constructor for each way in which a step can go, whatever the
source of choices draws and wherever the limit lies.

Every preparation is such a run (`prepareFor_run`), so what all preparations do is proved by
induction on runs: four ways to end, and one way to go on.
-/

namespace RestCatalog

namespace ResourceGroup

variable {σ : Type} [ChoiceSource σ] {group : ResourceGroup} {resource : Resource}
  {target pattern : Call} {chooser later : Chooser σ}

/-- How a preparation comes about that may put `fuel` calls in front of a sequence of `length`
calls. -/
inductive PreparationRun (group : ResourceGroup) (resource : Resource) (limit : Option Int) :
    (fuel length : Nat) → Call → Chooser σ → Preparation × Chooser σ → Prop
  /-- The sequence is at its limit. -/
  | full {fuel length : Nat} {target : Call} {chooser : Chooser σ}
      (hfull : ¬ LeavesRoom limit length) :
      PreparationRun group resource limit (fuel + 1) length target chooser
        (⟨.notEnoughLength, [], target⟩, chooser)
  /-- There is no POST to create anything. -/
  | missing {fuel length : Nat} {target : Call} {chooser later : Chooser σ}
      (hroom : LeavesRoom limit length)
      (hchoice : group.chooseClosest resource target [.post] chooser = (none, later)) :
      PreparationRun group resource limit (fuel + 1) length target chooser
        (⟨if target.verb = .post then .created else .notFound, [], target⟩, later)
  /-- The closest POST needs nothing else. -/
  | settled {fuel length : Nat} {target pattern : Call} {chooser later : Chooser σ}
      (hroom : LeavesRoom limit length)
      (hchoice : group.chooseClosest resource target [.post] chooser = (some pattern, later))
      (hneeds : pattern.restPath.needsDependency = false) :
      PreparationRun group resource limit (fuel + 1) length target chooser
        (⟨.created, [(handOver (pattern.createdFor target) target).1],
          (handOver (pattern.createdFor target) target).2⟩, later)
  /-- It needs something else, and no more calls may be put in front of it. -/
  | exhausted {length : Nat} {target pattern : Call} {chooser later : Chooser σ}
      (hroom : LeavesRoom limit length)
      (hchoice : group.chooseClosest resource target [.post] chooser = (some pattern, later))
      (hneeds : pattern.restPath.needsDependency = true) :
      PreparationRun group resource limit 1 length target chooser
        (⟨.notFoundDependent, [pattern.createdFor target], target⟩, later)
  /-- It needs something else, and is prepared in turn. -/
  | further {fuel length : Nat} {target pattern : Call} {chooser later after : Chooser σ}
      {inner : Preparation} (hroom : LeavesRoom limit length)
      (hchoice : group.chooseClosest resource target [.post] chooser = (some pattern, later))
      (hneeds : pattern.restPath.needsDependency = true)
      (run : PreparationRun group resource limit (fuel + 1) (length + 1)
        (pattern.createdFor target) later (inner, after)) :
      PreparationRun group resource limit (fuel + 2) length target chooser
        (inner.followedBy target, after)

/-- A preparation that may put any calls in front is a run. -/
theorem prepareFor_run (group : ResourceGroup) (resource : Resource) (limit : Option Int)
    (fuel length : Nat) (target : Call) (chooser : Chooser σ) :
    group.PreparationRun resource limit (fuel + 1) length target chooser
      (group.prepareFor resource limit (fuel + 1) length target chooser) := by
  induction fuel using Nat.strongRecOn generalizing length target chooser with
  | ind fuel ih =>
      by_cases hroom : LeavesRoom limit length
      case neg =>
        rw [prepareFor_of_full hroom]
        exact .full hroom
      case pos =>
        obtain ⟨candidate, later, hchoice⟩ : ∃ candidate later,
            group.chooseClosest resource target [.post] chooser = (candidate, later) := ⟨_, _, rfl⟩
        cases candidate with
        | none =>
            rw [prepareFor_of_none hroom hchoice]
            exact .missing hroom hchoice
        | some pattern =>
            cases hneeds : pattern.restPath.needsDependency with
            | false =>
                rw [prepareFor_of_settled hroom hchoice hneeds]
                exact .settled hroom hchoice hneeds
            | true =>
                cases fuel with
                | zero =>
                    rw [prepareFor_of_exhausted hroom hchoice hneeds]
                    exact .exhausted hroom hchoice hneeds
                | succ fuel =>
                    have run := ih fuel (Nat.lt_succ_self _) (length + 1)
                      (pattern.createdFor target) later
                    rw [prepareFor_of_needs hroom hchoice hneeds rfl]
                    exact .further hroom hchoice hneeds run

/-! ## What a choice says about the candidates -/

/-- What is put in front of a target is a POST. -/
theorem verb_of_chooseClosest
    (hchoice : group.chooseClosest resource target [.post] chooser = (some pattern, later)) :
    (pattern.createdFor target).verb = .post := by
  rw [(Call.createdFor_alike pattern target).verb_eq]
  have hcandidate := (mem_deepestCalls.mp (chooseClosest_eq_some hchoice).1).1
  obtain ⟨_, _, _, hverb, _⟩ := mem_closestCandidates.mp hcandidate
  exact List.mem_singleton.mp hverb

/-- Preparing a target changes nothing of it but the location that it is filled from. -/
theorem PreparationRun.target_eq {limit : Option Int} {fuel length : Nat}
    {prepared : Preparation × Chooser σ}
    (run : group.PreparationRun resource limit fuel length target chooser prepared) :
    ∃ location, prepared.1.target = { target with locationId := location } := by
  cases run with
  | full => exact ⟨target.locationId, rfl⟩
  | missing => exact ⟨target.locationId, rfl⟩
  | settled =>
      dsimp only
      exact handOver_target _ _
  | exhausted => exact ⟨target.locationId, rfl⟩
  | further => exact Preparation.target_followedBy _ _

end ResourceGroup

end RestCatalog
