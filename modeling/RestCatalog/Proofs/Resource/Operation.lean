import RestCatalog.Proofs.Creation.History
import RestCatalog.Proofs.Parameter.Note
import RestCatalog.Proofs.Selection.Visit

/-!
# Everything that can be done to a resource

`ResourceOperation` lists the operations on a resource: the selection of a template, the
operations on its chains, entering parameters, and deriving or confirming tables.  `run`
performs a number of them; one that refuses is a step like any other.

A set-up, which is one of the operations on the chains, starts over.  Any other operation
enters parameters or exchanges the templates, the chains or the tables, and leaves all else
alone (`step_eq`).  Whatever is done, a resource stays where it is in its group and keeps its
mode, so what it was before its set-up, `bare`, can always be read off it (`bare_step`).
-/

namespace RestCatalog

/-- What can be done to a resource. -/
inductive ResourceOperation (σ : Type) where
  | select (query : TemplateQuery σ)
  | chains (operation : CreationOperation)
  /-- Enters the parameters of a call that are not known yet. -/
  | noteParams (call : Call)
  /-- Enters one parameter of a call with a verb. -/
  | noteParam (verb : Verb) (params : List Param) (ref : ParamRef params)
  | deriveTables (tables : List String)
  | confirmTable (table : String)

/-- Whether an operation sets a resource up again. -/
def ResourceOperation.IsSetUp {σ : Type} (operation : ResourceOperation σ) : Prop :=
  ∃ withRows, operation = .chains (.init withRows)

variable {σ : Type} [ChoiceSource σ]

namespace Resource

variable {resource : Resource}

/-- A resource before its set-up. -/
def bare (resource : Resource) : Resource :=
  { path := resource.path
    calls := resource.calls
    mode := resource.mode
    ancestors := resource.ancestors }

theorem samePosition_of_bare {later : Resource} (hbare : later.bare = resource.bare) :
    later.SamePosition resource := by
  unfold bare at hbare
  injection hbare with hpath hcalls _ hancestors
  exact ⟨hpath, hcalls, hancestors⟩

theorem mode_of_bare {later : Resource} (hbare : later.bare = resource.bare) :
    later.mode = resource.mode := by
  unfold bare at hbare
  injection hbare

/-- A selection changes the templates. -/
theorem select_eq (resource : Resource) (query : TemplateQuery σ) :
    ∃ templates, (resource.select query).1 = { resource with templates } := by
  unfold select
  cases hpool : resource.templatePool query.chosen with
  | error error =>
      rw [selectTemplate_of_refused hpool]
      exact ⟨resource.templates, rfl⟩
  | ok pool =>
      by_cases hnone : pool.filter query.admits = []
      · rw [selectTemplate_of_none hpool hnone]
        exact ⟨resource.templates, rfl⟩
      · obtain ⟨template, -, next, -, hselect⟩ :=
          selectTemplate_of_some hpool hnone query.lessVisited query.chooser
        rw [hselect]
        exact ⟨_, rfl⟩

end Resource

namespace ResourceGroup

open Resource

variable {group : ResourceGroup} {resource : Resource} {operation : ResourceOperation σ}
  {operations : List (ResourceOperation σ)}

/-- An operation on the chains that is no set-up and no sizing changes them only. -/
theorem stepCreations_eq (group : ResourceGroup) (resource : Resource)
    {operation : CreationOperation} (hother : ∀ withRows, operation ≠ .init withRows)
    (hsizing : operation ≠ .updateTemplateSize) :
    ∃ creations, (group.stepCreations resource operation).1 = { resource with creations } := by
  cases operation with
  | init withRows => exact absurd rfl (hother withRows)
  | check insertions calls =>
      unfold stepCreations
      cases hfound : resource.creations.findOrRegister? insertions calls with
      | none => exact ⟨resource.creations, by simp only [hfound]⟩
      | some result => exact ⟨result.1, by simp only [hfound]⟩
  | confirmFailure calls => exact ⟨_, rfl⟩
  | updateTemplateSize => exact absurd rfl hsizing
  | confirm key confirmation =>
      unfold stepCreations
      cases hconfirm : resource.creations.confirmAt key confirmation with
      | ok store => exact ⟨store, by simp only [hconfirm]⟩
      | error error => exact ⟨resource.creations, by simp only [hconfirm]⟩

/-! ## One operation -/

/-- A resource of a group after an operation. -/
def step (group : ResourceGroup) (resource : Resource) : ResourceOperation σ → Resource
  | .select query => (resource.select query).1
  | .chains operation => (group.stepCreations resource operation).1
  | .noteParams call =>
    match resource.noteAdditional call with
    | .ok (later, _) => later
    | .error _ => resource
  | .noteParam verb _ ref =>
    match resource.noteAdditionalParam verb ref with
    | .ok (later, _) => later
    | .error _ => resource
  | .deriveTables tables => resource.deriveTables tables
  | .confirmTable table => resource.confirmTable table

theorem step_init (group : ResourceGroup) (resource : Resource) (withRows : Bool) :
    group.step resource (.chains (.init withRows) : ResourceOperation σ) =
      (group.init resource withRows).1 := by
  unfold step stepCreations
  dsimp only
  split
  case h_1 hcase => rw [hcase]
  case h_2 hcase => rw [hcase]

theorem paramsEntered_step_noteParams (group : ResourceGroup) (resource : Resource) (call : Call) :
    ParamsEntered resource (group.step resource (.noteParams call : ResourceOperation σ)) := by
  unfold step
  cases hnoted : resource.noteAdditional call with
  | ok result => simpa only [hnoted] using paramsEntered_noteAdditional hnoted
  | error error => simpa only [hnoted] using ParamsEntered.none

theorem paramsEntered_step_noteParam (group : ResourceGroup) (resource : Resource) (verb : Verb)
    {params : List Param} (ref : ParamRef params) :
    ParamsEntered resource
      (group.step resource (.noteParam verb params ref : ResourceOperation σ)) := by
  unfold step
  cases hnoted : resource.noteAdditionalParam verb ref with
  | ok result => simpa only [hnoted] using paramsEntered_noteAdditionalParam hnoted
  | error error => simpa only [hnoted] using ParamsEntered.none

/-- An operation that is no set-up enters some parameters, and exchanges the templates, the
chains or the tables. -/
theorem step_eq (group : ResourceGroup) (resource : Resource) (hother : ¬ operation.IsSetUp) :
    ∃ noted templates creations tables, ParamsEntered resource noted ∧
      group.step resource operation = { noted with templates, creations, tables } := by
  cases operation with
  | select query =>
      obtain ⟨templates, hselect⟩ := resource.select_eq query
      exact ⟨resource, templates, resource.creations, resource.tables, .none, hselect⟩
  | chains operation =>
      by_cases hsizing : operation = .updateTemplateSize
      · subst hsizing
        obtain ⟨templates, hsized⟩ := resource.updateTemplateSize_eq
        exact ⟨resource, templates, resource.creations, resource.tables, .none, hsized⟩
      · obtain ⟨creations, hstep⟩ := group.stepCreations_eq resource
          (fun withRows hinit => hother ⟨withRows, congrArg _ hinit⟩) hsizing
        exact ⟨resource, resource.templates, creations, resource.tables, .none, hstep⟩
  | noteParams call =>
      exact ⟨_, _, _, _, group.paramsEntered_step_noteParams (σ := σ) resource call, rfl⟩
  | noteParam verb params ref =>
      exact ⟨_, _, _, _, group.paramsEntered_step_noteParam (σ := σ) resource verb ref, rfl⟩
  | deriveTables tables => exact ⟨resource, _, _, _, .none, rfl⟩
  | confirmTable table => exact ⟨resource, _, _, _, .none, rfl⟩

/-- Templates change by a selection or by sizing. -/
theorem templates_step (group : ResourceGroup) (resource : Resource) (hother : ¬ operation.IsSetUp)
    (hselect : ∀ query, operation ≠ .select query)
    (hsizing : operation ≠ .chains .updateTemplateSize) :
    (group.step resource operation).templates = resource.templates := by
  cases operation with
  | select query => exact absurd rfl (hselect query)
  | chains operation =>
      obtain ⟨creations, hstep⟩ := group.stepCreations_eq resource
        (fun withRows hinit => hother ⟨withRows, congrArg _ hinit⟩)
        (fun hsized => hsizing (congrArg _ hsized))
      dsimp only [step]
      rw [hstep]
  | noteParams call =>
      obtain ⟨params, hnoted⟩ :=
        (group.paramsEntered_step_noteParams (σ := σ) resource call).eq_withParams
      rw [hnoted]
  | noteParam verb params ref =>
      obtain ⟨params, hnoted⟩ :=
        (group.paramsEntered_step_noteParam (σ := σ) resource verb ref).eq_withParams
      rw [hnoted]
  | deriveTables tables => rfl
  | confirmTable table => rfl

/-- Chains change by the operations on them. -/
theorem creations_step (group : ResourceGroup) (resource : Resource)
    (hother : ∀ chains, operation ≠ .chains chains) :
    (group.step resource operation).creations = resource.creations := by
  cases operation with
  | select query =>
      obtain ⟨templates, hselect⟩ := resource.select_eq query
      dsimp only [step]
      rw [hselect]
  | chains operation => exact absurd rfl (hother operation)
  | noteParams call =>
      obtain ⟨params, hnoted⟩ :=
        (group.paramsEntered_step_noteParams (σ := σ) resource call).eq_withParams
      rw [hnoted]
  | noteParam verb params ref =>
      obtain ⟨params, hnoted⟩ :=
        (group.paramsEntered_step_noteParam (σ := σ) resource verb ref).eq_withParams
      rw [hnoted]
  | deriveTables tables => rfl
  | confirmTable table => rfl

/-- No operation moves a resource or changes its mode. -/
theorem bare_step (group : ResourceGroup) (resource : Resource) (operation : ResourceOperation σ) :
    (group.step resource operation).bare = resource.bare := by
  by_cases hsetUp : operation.IsSetUp
  · obtain ⟨withRows, rfl⟩ := hsetUp
    obtain ⟨inventory, templates, params, hinit⟩ := init_eq group resource withRows
    rw [step_init, hinit]
    rfl
  · obtain ⟨noted, templates, creations, tables, entered, hstep⟩ :=
      group.step_eq resource hsetUp
    obtain ⟨params, rfl⟩ := entered.eq_withParams
    rw [hstep]
    rfl

/-- Only a set-up enters verbs. -/
theorem inventory_step (hother : ¬ operation.IsSetUp) :
    (group.step resource operation).inventory = resource.inventory := by
  obtain ⟨noted, templates, creations, tables, entered, hstep⟩ :=
    group.step_eq resource hother
  obtain ⟨params, rfl⟩ := entered.eq_withParams
  rw [hstep]

/-! ## Operations one after the other -/

/-- A resource of a group after a number of operations. -/
def run (group : ResourceGroup) (resource : Resource)
    (operations : List (ResourceOperation σ)) : Resource :=
  operations.foldl group.step resource

theorem run_append (group : ResourceGroup) (resource : Resource)
    (before after : List (ResourceOperation σ)) :
    group.run resource (before ++ after) = group.run (group.run resource before) after :=
  List.foldl_append

end ResourceGroup

end RestCatalog
