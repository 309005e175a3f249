import RestCatalog.Proofs.Resource.ClosestSearch
import RestCatalog.Resource.Preparation

/-!
# One step of a preparation

A preparation without a limit looks for the closest POST of its target and then does
one of four things, which the `prepareFor_…` equations state one by one: it gives up for
want of a POST, it ends with a POST that needs nothing else, it runs out of calls that it
may put in front, or it prepares that POST in turn.

The calls in a prepared sequence are fresh copies whose locations are handed on.
`Call.Alike` is what such a copy keeps, the verb and the path, and all that the search
for a creator reads (`closestCandidates_congr`).  The name of a call says neither more
nor less (`alike_iff_name_eq`).

What is chosen depends on the source of choices; `deepest_of_alwaysFirst` is about a source that
always draws the first candidate.
-/

namespace RestCatalog

namespace Call

/-- Two calls of one verb on one path. -/
structure Alike (a b : Call) : Prop where
  verb_eq : a.verb = b.verb
  path_eq : a.path = b.path

namespace Alike

theorem refl (call : Call) : call.Alike call := ⟨rfl, rfl⟩

theorem trans {a b c : Call} (hab : a.Alike b) (hbc : b.Alike c) : a.Alike c :=
  ⟨hab.verb_eq.trans hbc.verb_eq, hab.path_eq.trans hbc.path_eq⟩

theorem name_eq {a b : Call} (alike : a.Alike b) : a.name = b.name := by
  unfold name
  rw [alike.verb_eq, alike.path_eq]

theorem restPath_eq {a b : Call} (alike : a.Alike b) : a.restPath = b.restPath := by
  unfold restPath
  rw [alike.path_eq]

end Alike

/-- The name of a call begins with its verb, up to the first colon. -/
private theorem takeWhile_name (call : Call) :
    (call.name.toList.takeWhile fun c => c != ':') = call.verb.text.toList := by
  have hverb : ∀ c ∈ call.verb.text.toList, (c != ':') = true :=
    fun c hc => bne_iff_ne.mpr (Verb.ne_of_mem_text hc (by decide))
  unfold name
  rw [String.toList_append, String.toList_append, List.append_assoc,
    List.takeWhile_append_of_pos hverb]
  simp

theorem alike_iff_name_eq {a b : Call} : a.Alike b ↔ a.name = b.name := by
  refine ⟨Alike.name_eq, ?_⟩
  intro hname
  have htext : a.verb.text = b.verb.text := by
    rw [← String.toList_inj, ← takeWhile_name, ← takeWhile_name, hname]
  have hverb : a.verb = b.verb := by
    revert htext
    cases a.verb <;> cases b.verb <;> decide
  refine ⟨hverb, ?_⟩
  unfold name at hname
  rw [htext] at hname
  exact (String.append_right_inj _).mp hname

theorem createdFor_alike (pattern target : Call) : (pattern.createdFor target).Alike pattern :=
  ⟨rfl, rfl⟩

end Call

theorem handOver_alike (post target : Call) :
    (handOver post target).1.Alike post ∧ (handOver post target).2.Alike target := by
  unfold handOver
  split
  · exact ⟨⟨rfl, rfl⟩, ⟨rfl, rfl⟩⟩
  · exact ⟨⟨rfl, rfl⟩, ⟨rfl, rfl⟩⟩

theorem handOver_target (post target : Call) :
    ∃ location, (handOver post target).2 = { target with locationId := location } := by
  unfold handOver
  split
  · exact ⟨_, rfl⟩
  · exact ⟨_, rfl⟩

namespace Preparation

/-- The calls of a prepared sequence, the target last. -/
def sequence (prepared : Preparation) : List Call := prepared.inserted ++ [prepared.target]

/-- A POST that was prepared itself is put in front of a target.  If that preparation succeeded
the POST hands its location on. -/
def followedBy (prepared : Preparation) (target : Call) : Preparation :=
  if prepared.status = .created then
    ⟨.created, prepared.inserted ++ [(handOver prepared.target target).1],
      (handOver prepared.target target).2⟩
  else ⟨.notFoundDependent, prepared.inserted ++ [prepared.target], target⟩

theorem status_followedBy (prepared : Preparation) (target : Call) :
    (prepared.followedBy target).status =
      if prepared.status = .created then .created else .notFoundDependent := by
  unfold followedBy
  split <;> rfl

@[simp]
theorem status_followedBy_eq_created {prepared : Preparation} {target : Call} :
    (prepared.followedBy target).status = .created ↔ prepared.status = .created := by
  rw [status_followedBy]
  split <;> simp_all

/-- The POST stands behind the calls that were prepared for it. -/
theorem inserted_followedBy (prepared : Preparation) (target : Call) :
    ∃ post, (prepared.followedBy target).inserted = prepared.inserted ++ [post] ∧
      post.Alike prepared.target := by
  unfold followedBy
  split
  · exact ⟨_, rfl, (handOver_alike prepared.target target).1⟩
  · exact ⟨_, rfl, .refl _⟩

theorem sequence_followedBy {prepared : Preparation} (hcreated : prepared.status = .created)
    (target : Call) :
    (prepared.followedBy target).sequence =
      prepared.inserted ++ [(handOver prepared.target target).1] ++
        [(handOver prepared.target target).2] := by
  unfold followedBy sequence
  rw [if_pos hcreated]

theorem target_followedBy (prepared : Preparation) (target : Call) :
    ∃ location, (prepared.followedBy target).target = { target with locationId := location } := by
  unfold followedBy
  split
  · dsimp only
    exact handOver_target prepared.target target
  · exact ⟨target.locationId, rfl⟩

end Preparation

namespace ChoiceSource

variable {σ : Type} [ChoiceSource σ]

/-- A source after a number of choices among given numbers of candidates, less one each. -/
def after (source : σ) (sizes : List Nat) : σ :=
  sizes.foldl (fun source n => (draw source n).2) source

/-- Whatever was chosen before, the first candidate is drawn. -/
def AlwaysFirst (source : σ) : Prop := ∀ sizes n, (draw (after source sizes) n).1.val = 0

theorem AlwaysFirst.draw_eq {source : σ} (hfirst : AlwaysFirst source) (n : Nat) :
    (draw source n).1.val = 0 ∧ AlwaysFirst (draw source n).2 :=
  ⟨hfirst [] n, fun sizes m => hfirst (n :: sizes) m⟩

end ChoiceSource

/-- Every choice falls on the first candidate. -/
def firstChooser : Chooser Script := { source := { numbers := [0] } }

theorem alwaysFirst_firstChooser : ChoiceSource.AlwaysFirst firstChooser.source := by
  have hafter : ∀ (sizes : List Nat) (script : Script), script.numbers = [0] →
      (ChoiceSource.after script sizes).numbers = [0] := by
    intro sizes
    induction sizes with
    | nil => exact fun script hnumbers => hnumbers
    | cons n rest ih => exact fun script hnumbers => ih _ hnumbers
  intro sizes n
  have hnumbers := hafter sizes firstChooser.source rfl
  generalize ChoiceSource.after firstChooser.source sizes = script at hnumbers
  have hzero : script.numbers.getD (script.position % script.numbers.length) 0 = 0 := by
    rw [hnumbers]
    simp [Nat.mod_one]
  change (Script.index (script.numbers.getD (script.position % script.numbers.length) 0) n).val = 0
  rw [hzero]
  simp [Script.index]

namespace Chooser

variable {σ : Type} [ChoiceSource σ]

/-- A source that always draws the first candidate takes the first of the deepest calls. -/
theorem deepest_of_alwaysFirst (calls : List Call) (chooser : Chooser σ)
    (hfirst : ChoiceSource.AlwaysFirst chooser.source) :
    ∃ later, deepest calls chooser = ((deepestCalls calls).head?, later) ∧
      ChoiceSource.AlwaysFirst later.source := by
  unfold deepest
  cases hcalls : calls with
  | nil => exact ⟨chooser, rfl, hfirst⟩
  | cons first rest =>
      cases hdeepest : deepestCalls (first :: rest) with
      | nil => cases deepestCalls_eq_nil_iff.mp hdeepest
      | cons candidate others =>
          obtain ⟨hdrawn, hnext⟩ := hfirst.draw_eq others.length
          refine ⟨(choose .calls (candidate :: others) chooser).2, ?_, hnext⟩
          simp [choose, List.get_eq_getElem, hdrawn]

end Chooser

namespace ResourceGroup

variable {σ : Type} [ChoiceSource σ] {group : ResourceGroup} {resource : Resource}
  {target pattern : Call} {chooser later : Chooser σ} {fuel length : Nat}

/-- The candidates depend on the verb and the path of the target. -/
theorem closestCandidates_congr {other : Call} (alike : target.Alike other) (verbs : List Verb) :
    group.closestCandidates resource target verbs =
      group.closestCandidates resource other verbs := by
  unfold closestCandidates sameOrAncestorCalls
  rw [alike.name_eq, alike.restPath_eq]

/-- A sequence of some length is still under its limit. -/
def LeavesRoom (limit : Option Int) (length : Nat) : Prop :=
  ∀ most, limit = some most → (length : Int) < most

@[simp]
theorem leavesRoom_none (length : Nat) : LeavesRoom none length :=
  fun _ hlimit => nomatch hlimit

@[simp]
theorem leavesRoom_some {most : Int} : LeavesRoom (some most) length ↔ (length : Int) < most := by
  simp [LeavesRoom]

private theorem any_le_eq_false_iff {limit : Option Int} :
    (limit.any fun (most : Int) => most ≤ (length : Int)) = false ↔ LeavesRoom limit length := by
  cases limit <;> simp

section

variable {limit : Option Int}

/-- At its limit a sequence stays as it is, and nothing is asked. -/
theorem prepareFor_of_full (hfull : ¬ LeavesRoom limit length) :
    group.prepareFor resource limit (fuel + 1) length target chooser =
      (⟨.notEnoughLength, [], target⟩, chooser) := by
  rw [← any_le_eq_false_iff, Bool.not_eq_false] at hfull
  rw [prepareFor, if_pos hfull]

variable (hroom : LeavesRoom limit length)
include hroom

theorem prepareFor_of_none
    (hchoice : group.chooseClosest resource target [.post] chooser = (none, later)) :
    group.prepareFor resource limit (fuel + 1) length target chooser =
      (⟨if target.verb = .post then .created else .notFound, [], target⟩, later) := by
  unfold prepareFor
  simp [any_le_eq_false_iff.mpr hroom, hchoice]

theorem prepareFor_of_settled
    (hchoice : group.chooseClosest resource target [.post] chooser = (some pattern, later))
    (hneeds : pattern.restPath.needsDependency = false) :
    group.prepareFor resource limit (fuel + 1) length target chooser =
      (⟨.created, [(handOver (pattern.createdFor target) target).1],
        (handOver (pattern.createdFor target) target).2⟩, later) := by
  have hneeds' : (pattern.createdFor target).restPath.needsDependency = false := hneeds
  unfold prepareFor
  simp [any_le_eq_false_iff.mpr hroom, hchoice, hneeds']

theorem prepareFor_of_exhausted
    (hchoice : group.chooseClosest resource target [.post] chooser = (some pattern, later))
    (hneeds : pattern.restPath.needsDependency = true) :
    group.prepareFor resource limit 1 length target chooser =
      (⟨.notFoundDependent, [pattern.createdFor target], target⟩, later) := by
  have hneeds' : (pattern.createdFor target).restPath.needsDependency = true := hneeds
  unfold prepareFor
  simp [any_le_eq_false_iff.mpr hroom, hchoice, hneeds']

/-- The POST is prepared in turn, and what comes of it decides about the target. -/
theorem prepareFor_of_needs
    (hchoice : group.chooseClosest resource target [.post] chooser = (some pattern, later))
    (hneeds : pattern.restPath.needsDependency = true) {inner : Preparation} {after : Chooser σ}
    (hinner : group.prepareFor resource limit (fuel + 1) (length + 1) (pattern.createdFor target)
      later = (inner, after)) :
    group.prepareFor resource limit (fuel + 2) length target chooser =
      (inner.followedBy target, after) := by
  have hneeds' : (pattern.createdFor target).restPath.needsDependency = true := hneeds
  rw [prepareFor]
  simp only [any_le_eq_false_iff.mpr hroom, Bool.false_eq_true, if_false, hchoice, hneeds',
    Bool.not_true, Nat.succ_ne_zero, hinner]
  obtain ⟨status, inserted, post⟩ := inner
  cases status <;> rfl

end

end ResourceGroup

end RestCatalog
