import RestCatalog.Proofs.Catalog.SetUp
import RestCatalog.Proofs.Preparation.Run

/-!
# A limit only cuts a preparation off

The limit on the length of a sequence is tested before every choice, and up to the first
test that fails a preparation with a limit does what one without does.  `CutOff` compares
the two from any point of the recursion on:

* at the limit nothing is put in front any more, so the shorter run ends at once
  (`PreparationRun.cutOff_of_full`);
* below it both runs choose the same POST, and a comparison for that POST carries over to the
  target behind it (`CutOff.followedBy`).

`PreparationRun.cutOff` puts the two together by induction on the run without a limit.
`prepare_truncated` reads the result off for the calls of a whole sequence: the limit leaves
the last calls of it, as many as fit, and shows up nowhere else unless it is reached.
-/

namespace RestCatalog

/-- The name and the parameters of a call, without its part in the hand-over of locations. -/
def Call.outline (call : Call) : String × List Param := (call.name, call.params)

theorem outline_handOver (post target : Call) :
    (handOver post target).1.outline = post.outline ∧
      (handOver post target).2.outline = target.outline := by
  unfold handOver
  split
  · exact ⟨rfl, rfl⟩
  · exact ⟨rfl, rfl⟩

namespace Preparation

theorem map_outline_followedBy (prepared : Preparation) (target : Call) :
    (prepared.followedBy target).inserted.map Call.outline =
      prepared.inserted.map Call.outline ++ [prepared.target.outline] := by
  unfold followedBy
  split
  · dsimp only
    rw [List.map_append, List.map_singleton, (outline_handOver prepared.target target).1]
  · rw [List.map_append, List.map_singleton]

theorem outline_target_followedBy (prepared : Preparation) (target : Call) :
    (prepared.followedBy target).target.outline = target.outline := by
  obtain ⟨location, htarget⟩ := prepared.target_followedBy target
  rw [htarget]
  rfl

theorem length_inserted_followedBy (prepared : Preparation) (target : Call) :
    (prepared.followedBy target).inserted.length = prepared.inserted.length + 1 := by
  obtain ⟨post, hinserted, -⟩ := prepared.inserted_followedBy target
  rw [hinserted, List.length_append, List.length_singleton]

end Preparation

namespace ResourceGroup

variable {σ : Type} [ChoiceSource σ] {group : ResourceGroup} {resource : Resource}
  {target : Call} {chooser : Chooser σ} {fuel length : Nat} {most : Int}
  {whole cut : Preparation × Chooser σ}

/-- What a limit of `most` calls makes of a preparation in front of `length` calls. -/
structure CutOff (most : Int) (length : Nat) (whole cut : Preparation × Chooser σ) : Prop where
  /-- As many calls are put in front as fit. -/
  length_eq : (cut.1.inserted.length : Int) =
    min (whole.1.inserted.length : Int) (max 0 (most - length))
  outlines : cut.1.inserted.map Call.outline <:+ whole.1.inserted.map Call.outline
  outline_target : cut.1.target.outline = whole.1.target.outline
  eq_of_created : cut.1.status = .created → cut = whole
  eq_of_room : (length + whole.1.inserted.length : Int) < most → cut = whole

omit [ChoiceSource σ] in
/-- Where everything fits, nothing is cut off. -/
theorem CutOff.refl (hfits : (length + whole.1.inserted.length : Int) ≤ most) :
    CutOff most length whole whole := by
  constructor
  case length_eq => omega
  case outlines => exact List.suffix_refl _
  case outline_target => rfl
  case eq_of_created => exact fun _ => rfl
  case eq_of_room => exact fun _ => rfl

omit [ChoiceSource σ] in
/-- A comparison for a POST carries over to the target that it is put in front of. -/
theorem CutOff.followedBy (cutOff : CutOff most (length + 1) whole cut)
    (hroom : (length : Int) < most) (target : Call) :
    CutOff most length (whole.1.followedBy target, whole.2) (cut.1.followedBy target, cut.2) := by
  constructor
  case length_eq =>
    have hlength := cutOff.length_eq
    dsimp only
    rw [Preparation.length_inserted_followedBy, Preparation.length_inserted_followedBy]
    omega
  case outlines =>
    dsimp only
    rw [Preparation.map_outline_followedBy, Preparation.map_outline_followedBy,
      cutOff.outline_target, List.suffix_append_inj_of_length_eq rfl]
    exact ⟨cutOff.outlines, rfl⟩
  case outline_target =>
    dsimp only
    rw [Preparation.outline_target_followedBy, Preparation.outline_target_followedBy]
  case eq_of_created =>
    intro hcreated
    rw [cutOff.eq_of_created (Preparation.status_followedBy_eq_created.mp hcreated)]
  case eq_of_room =>
    intro hmost
    dsimp only at hmost
    rw [Preparation.length_inserted_followedBy] at hmost
    rw [cutOff.eq_of_room (by omega)]

/-- At the limit the run ends before it has put anything in front. -/
theorem PreparationRun.cutOff_of_full
    (run : group.PreparationRun resource none fuel length target chooser whole)
    (hfull : ¬ LeavesRoom (some most) length) :
    CutOff most length whole
      (group.prepareFor resource (some most) fuel length target chooser) := by
  obtain ⟨location, htarget⟩ := run.target_eq
  obtain ⟨fuel, rfl⟩ : ∃ less, fuel = less + 1 := by
    cases run <;> exact ⟨_, rfl⟩
  rw [prepareFor_of_full hfull]
  rw [leavesRoom_some] at hfull
  constructor
  case length_eq =>
    rw [List.length_nil]
    omega
  case outlines => exact List.nil_suffix
  case outline_target =>
    rw [htarget]
    rfl
  case eq_of_created => exact fun hcreated => nomatch hcreated
  case eq_of_room =>
    intro hmost
    omega

/-- A preparation with a limit is the one without, cut off. -/
theorem PreparationRun.cutOff
    (run : group.PreparationRun resource none fuel length target chooser whole) :
    CutOff most length whole
      (group.prepareFor resource (some most) fuel length target chooser) := by
  by_cases hroom : LeavesRoom (some most) length
  case neg => exact run.cutOff_of_full hroom
  case pos =>
    induction run with
    | full hfull => exact absurd (leavesRoom_none _) hfull
    | missing _ hchoice =>
        rw [prepareFor_of_none hroom hchoice]
        rw [leavesRoom_some] at hroom
        exact .refl (by simpa using Int.le_of_lt hroom)
    | settled _ hchoice hneeds =>
        rw [prepareFor_of_settled hroom hchoice hneeds]
        rw [leavesRoom_some] at hroom
        exact .refl (by simpa using Int.add_one_le_of_lt hroom)
    | exhausted _ hchoice hneeds =>
        rw [prepareFor_of_exhausted hroom hchoice hneeds]
        rw [leavesRoom_some] at hroom
        exact .refl (by simpa using Int.add_one_le_of_lt hroom)
    | @further _ length target _ _ _ _ _ _ hchoice hneeds run ih =>
        rw [prepareFor_of_needs hroom hchoice hneeds rfl]
        rw [leavesRoom_some] at hroom
        by_cases hnext : LeavesRoom (some most) (length + 1)
        · exact (ih hnext).followedBy hroom target
        · exact (run.cutOff_of_full hnext).followedBy hroom target

/-- No more calls are put in front than allowed. -/
theorem PreparationRun.length_inserted_le {limit : Option Int}
    (run : group.PreparationRun resource limit fuel length target chooser whole) :
    whole.1.inserted.length ≤ fuel := by
  induction run with
  | full => exact Nat.zero_le _
  | missing => exact Nat.zero_le _
  | settled => exact Nat.succ_le_succ (Nat.zero_le _)
  | exhausted => exact Nat.le_refl 1
  | further _ _ _ _ ih =>
      dsimp only
      rw [Preparation.length_inserted_followedBy]
      exact Nat.succ_le_succ ih

/-! ## Whole sequences -/

/-- What a limit of `most` calls leaves of a prepared sequence, with the state of the chooser
behind it. -/
structure Truncated (most : Int) (whole cut : Preparation × Chooser σ) : Prop where
  /-- As many calls as fit, but always the target. -/
  length_eq : (cut.1.sequence.length : Int) = max 1 (min (whole.1.sequence.length : Int) most)
  /-- They are the last ones, with the same names and parameters. -/
  outlines : cut.1.sequence.map Call.outline <:+ whole.1.sequence.map Call.outline
  /-- Success is only reported of a whole sequence. -/
  eq_of_created : cut.1.status = .created → cut = whole
  /-- Below the limit nothing shows that there is one. -/
  eq_of_lt : (whole.1.sequence.length : Int) < most → cut = whole

omit [ChoiceSource σ] in
theorem CutOff.truncated (cutOff : CutOff most 1 whole cut) : Truncated most whole cut := by
  have hlength : ∀ prepared : Preparation,
      prepared.sequence.length = prepared.inserted.length + 1 := by
    intro prepared
    unfold Preparation.sequence
    rw [List.length_append, List.length_singleton]
  constructor
  case length_eq =>
    have hinserted := cutOff.length_eq
    rw [hlength, hlength]
    omega
  case outlines =>
    unfold Preparation.sequence
    rw [List.map_append, List.map_append, List.map_singleton, List.map_singleton,
      cutOff.outline_target, List.suffix_append_inj_of_length_eq rfl]
    exact ⟨cutOff.outlines, rfl⟩
  case eq_of_created => exact cutOff.eq_of_created
  case eq_of_lt =>
    intro hmost
    rw [hlength] at hmost
    exact cutOff.eq_of_room (by omega)

/-- A limit only truncates the sequence that is prepared for a target, and without one the
sequence has at most one call more than the resource has ancestors in front of the target. -/
theorem prepare_truncated (group : ResourceGroup) (resource : Resource) (most : Int)
    (target : Call) (chooser : Chooser σ) :
    let whole := group.prepare resource none 1 target chooser
    Truncated most whole (group.prepare resource (some most) 1 target chooser) ∧
      whole.1.sequence.length ≤ 1 + (resource.ancestors.length + 1) := by
  intro whole
  have run := group.prepareFor_run resource none resource.ancestors.length 1 target chooser
  refine ⟨run.cutOff.truncated, ?_⟩
  have hle : whole.1.inserted.length ≤ resource.ancestors.length + 1 := run.length_inserted_le
  unfold Preparation.sequence
  rw [List.length_append, List.length_singleton]
  omega

/-- Two calls are too few for an item, of which only the last creator is left; four are more than
enough. -/
theorem prepare_truncated_items :
    ∃ resource ∈ Catalog.nestedDrafts,
      let whole := Catalog.nestedDrafts.prepare resource none 1 Catalog.readItem firstChooser
      let cut := Catalog.nestedDrafts.prepare resource (some 2) 1 Catalog.readItem firstChooser
      let roomy := Catalog.nestedDrafts.prepare resource (some 4) 1 Catalog.readItem firstChooser
      whole.1.sequence.map Call.name =
          ["POST:/shops", "POST:/shops/{shopId}/items", "GET:/shops/{shopId}/items/{itemId}"] ∧
        whole.1.status = .created ∧ Truncated 2 whole cut ∧
        cut.1.sequence.map Call.name =
          ["POST:/shops/{shopId}/items", "GET:/shops/{shopId}/items/{itemId}"] ∧
        cut.1.status = .notFoundDependent ∧ Truncated 4 whole roomy ∧ roomy = whole := by
  have hevaluated : ∃ resource ∈ Catalog.nestedDrafts,
      let whole := Catalog.nestedDrafts.prepare resource none 1 Catalog.readItem firstChooser
      let cut := Catalog.nestedDrafts.prepare resource (some 2) 1 Catalog.readItem firstChooser
      whole.1.sequence.map Call.name =
          ["POST:/shops", "POST:/shops/{shopId}/items", "GET:/shops/{shopId}/items/{itemId}"] ∧
        whole.1.status = .created ∧
        cut.1.sequence.map Call.name =
          ["POST:/shops/{shopId}/items", "GET:/shops/{shopId}/items/{itemId}"] ∧
        cut.1.status = .notFoundDependent := by decide +kernel
  obtain ⟨resource, hresource, hwhole, hcreated, hcut, hdependent⟩ := hevaluated
  have hroomy := prepare_truncated Catalog.nestedDrafts resource 4 Catalog.readItem firstChooser
  refine ⟨resource, hresource, hwhole, hcreated, ?_, hcut, hdependent, hroomy.1, ?_⟩
  · exact (prepare_truncated Catalog.nestedDrafts resource 2 Catalog.readItem firstChooser).1
  · refine hroomy.1.eq_of_lt ?_
    have hlength := congrArg List.length hwhole
    rw [List.length_map] at hlength
    rw [hlength]
    decide

end ResourceGroup

end RestCatalog
