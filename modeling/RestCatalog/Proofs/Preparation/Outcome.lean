import RestCatalog.Proofs.Catalog.Build
import RestCatalog.Proofs.Preparation.Run

/-!
# When a preparation reports success

A prepared sequence can run on its own if its first call, a POST, needs no other
resource.  `PreparedFor` says how the reported status relates to that.  There are two
ways to success: the first call needs nothing, or nothing was found that creates what
it needs.  In the second way the search meets a POST whose own creator is missing, and
since the call that it prepares at that moment is itself a POST it takes the chain for
finished; only a bound that is used up at the same moment prevents it.

`prepareFor_spec` follows the run with one lemma for each of its ends and
`PreparedFor.followedBy` for the step outwards.  `reportsDependencies_iff` draws the
conclusion: success means that the sequence can run on its own except in that case.
-/

namespace RestCatalog

namespace ResourceGroup

variable {σ : Type} [ChoiceSource σ] {group : ResourceGroup} {resource : Resource}
  {target post : Call} {chooser : Chooser σ} {fuel length : Nat}

/-- What a preparation of a target with some fuel tells about the calls in front of it. -/
structure PreparedFor (group : ResourceGroup) (resource : Resource) (fuel : Nat) (target : Call)
    (prepared : Preparation) : Prop where
  target_alike : prepared.target.Alike target
  posts : ∀ call ∈ prepared.inserted, call.verb = .post
  missing : prepared.inserted = [] →
    group.closestCandidates resource target [.post] = [] ∧
      prepared.status = if target.verb = .post then .created else .notFound
  status_cases : prepared.inserted ≠ [] →
    prepared.status = .created ∨ prepared.status = .notFoundDependent
  created_iff : ∀ first rest, prepared.inserted = first :: rest →
    (prepared.status = .created ↔
      first.restPath.needsDependency = false ∨
        group.closestCandidates resource first [.post] = [] ∧ prepared.inserted.length < fuel)

/-- No POST at all. -/
private theorem preparedFor_missing
    (hnone : group.closestCandidates resource target [.post] = []) :
    group.PreparedFor resource fuel target
      ⟨if target.verb = .post then .created else .notFound, [], target⟩ := by
  constructor
  case target_alike => exact .refl target
  case posts => simp
  case missing => exact fun _ => ⟨hnone, rfl⟩
  case status_cases => simp
  case created_iff => simp

/-- One POST in front that needs nothing else. -/
private theorem preparedFor_settled (hpost : post.verb = .post)
    (hneeds : post.restPath.needsDependency = false) {after : Call} (halike : after.Alike target) :
    group.PreparedFor resource (fuel + 1) target ⟨.created, [post], after⟩ := by
  constructor
  case target_alike => exact halike
  case posts => simpa using hpost
  case missing => simp
  case status_cases => simp
  case created_iff =>
    intro first rest hfirst
    obtain ⟨rfl, rfl⟩ := List.cons.inj hfirst
    exact ⟨fun _ => .inl hneeds, fun _ => rfl⟩

/-- One POST in front that needs something else, and no more calls to put in front of it. -/
private theorem preparedFor_exhausted (hpost : post.verb = .post)
    (hneeds : post.restPath.needsDependency = true) :
    group.PreparedFor resource 1 target ⟨.notFoundDependent, [post], target⟩ := by
  constructor
  case target_alike => exact .refl target
  case posts => simpa using hpost
  case missing => simp
  case status_cases => simp
  case created_iff =>
    intro first rest hfirst
    obtain ⟨rfl, rfl⟩ := List.cons.inj hfirst
    simp [hneeds]

/-- A POST that was prepared itself in front of the target. -/
private theorem PreparedFor.followedBy {inner : Preparation}
    (prepared : group.PreparedFor resource (fuel + 1) post inner) (hpost : post.verb = .post)
    (hneeds : post.restPath.needsDependency = true) (target : Call) :
    group.PreparedFor resource (fuel + 2) target (inner.followedBy target) := by
  obtain ⟨last, hinserted, halike⟩ := inner.inserted_followedBy target
  have hlast : last.Alike post := halike.trans prepared.target_alike
  constructor
  case target_alike =>
    obtain ⟨location, htarget⟩ := inner.target_followedBy target
    rw [htarget]
    exact ⟨rfl, rfl⟩
  case posts =>
    intro call hcall
    rw [hinserted] at hcall
    rcases List.mem_append.mp hcall with hcall | hcall
    · exact prepared.posts call hcall
    · rw [List.mem_singleton.mp hcall, hlast.verb_eq, hpost]
  case missing => simp [hinserted]
  case status_cases =>
    intro _
    rw [Preparation.status_followedBy]
    split
    · exact .inl rfl
    · exact .inr rfl
  case created_iff =>
    intro first rest hfirst
    rw [hinserted] at hfirst ⊢
    rw [Preparation.status_followedBy_eq_created]
    cases hinner : inner.inserted with
    | nil =>
        -- nothing stands in front of the POST, so it is the first call itself
        rw [hinner] at hfirst
        obtain ⟨rfl, rfl⟩ := List.cons.inj hfirst
        obtain ⟨hnone, hcreated⟩ := prepared.missing hinner
        rw [if_pos hpost] at hcreated
        rw [hlast.restPath_eq, hneeds, closestCandidates_congr hlast, hnone, hcreated]
        simp
    | cons head tail =>
        rw [hinner, List.cons_append] at hfirst
        obtain ⟨rfl, -⟩ := List.cons.inj hfirst
        rw [prepared.created_iff head tail hinner, hinner]
        simp

private theorem PreparationRun.preparedFor {prepared : Preparation × Chooser σ}
    (run : group.PreparationRun resource none fuel length target chooser prepared) :
    group.PreparedFor resource fuel target prepared.1 := by
  induction run with
  | full hfull => exact absurd (leavesRoom_none _) hfull
  | missing _ hchoice => exact preparedFor_missing (chooseClosest_eq_none hchoice).1
  | @settled _ _ target pattern _ _ _ hchoice hneeds =>
      have halike := handOver_alike (pattern.createdFor target) target
      have hpost : (pattern.createdFor target).verb = .post := verb_of_chooseClosest hchoice
      refine preparedFor_settled (halike.1.verb_eq.trans hpost) ?_ halike.2
      rw [halike.1.restPath_eq]
      exact hneeds
  | exhausted _ hchoice hneeds => exact preparedFor_exhausted (verb_of_chooseClosest hchoice) hneeds
  | further _ hchoice hneeds _ ih => exact ih.followedBy (verb_of_chooseClosest hchoice) hneeds _

/-- What a preparation without a limit does, whatever is chosen on its way. -/
theorem prepareFor_spec (fuel length : Nat) (target : Call) (chooser : Chooser σ) :
    group.PreparedFor resource (fuel + 1) target
      (group.prepareFor resource none (fuel + 1) length target chooser).1 :=
  (group.prepareFor_run resource none fuel length target chooser).preparedFor

/-! ## Success and self-sufficiency -/

/-- The sequence begins with a POST that needs no other resource. -/
def SelfSufficient (prepared : Preparation) : Prop :=
  ∃ first rest, prepared.inserted = first :: rest ∧ first.verb = .post ∧
    first.restPath.needsDependency = false

/-- The sequence begins with a POST that needs another resource, and there is no POST to create
it. -/
def LacksCreator (group : ResourceGroup) (resource : Resource) (prepared : Preparation) : Prop :=
  ∃ first rest, prepared.inserted = first :: rest ∧ first.restPath.needsDependency = true ∧
    group.closestCandidates resource first [.post] = []

/-- Success is reported of self-sufficient sequences only, and a missing creator as a missing
dependency. -/
structure ReportsDependencies (group : ResourceGroup) (resource : Resource)
    (prepared : Preparation) : Prop where
  selfSufficient : prepared.status = .created → SelfSufficient prepared
  lacking : group.LacksCreator resource prepared → prepared.status = .notFoundDependent

/-- A preparation without a limit reports the dependencies of its sequence unless a creator is
missing before the bound on the number of calls is used up. -/
theorem reportsDependencies_iff (group : ResourceGroup) (resource : Resource) {target : Call}
    (htarget : target.verb ≠ .post) (length : Nat) (chooser : Chooser σ) :
    let prepared := (group.prepare resource none length target chooser).1
    group.ReportsDependencies resource prepared ↔
      (group.LacksCreator resource prepared →
        resource.ancestors.length < prepared.inserted.length) := by
  intro prepared
  have hspec : group.PreparedFor resource (resource.ancestors.length + 1) target prepared :=
    prepareFor_spec _ length target chooser
  constructor
  · rintro reports ⟨first, rest, hfirst, hneeds, hnone⟩
    have hstatus := reports.lacking ⟨first, rest, hfirst, hneeds, hnone⟩
    by_contra hroom
    have hcreated := (hspec.created_iff first rest hfirst).mpr
      (.inr ⟨hnone, Nat.lt_succ_of_le (Nat.le_of_not_lt hroom)⟩)
    rw [hstatus] at hcreated
    cases hcreated
  · intro hbound
    constructor
    case selfSufficient =>
      intro hcreated
      cases hinserted : prepared.inserted with
      | nil =>
          rw [(hspec.missing hinserted).2, if_neg htarget] at hcreated
          cases hcreated
      | cons first rest =>
          refine ⟨first, rest, hinserted, hspec.posts first (by simp [hinserted]), ?_⟩
          rcases (hspec.created_iff first rest hinserted).mp hcreated with hneeds | ⟨hnone, hroom⟩
          · exact hneeds
          · by_contra hneeds
            have hlong := hbound ⟨first, rest, hinserted, by simpa using hneeds, hnone⟩
            omega
    case lacking =>
      rintro ⟨first, rest, hfirst, hneeds, hnone⟩
      have hlong := hbound ⟨first, rest, hfirst, hneeds, hnone⟩
      rcases hspec.status_cases (by simp [hfirst]) with hcreated | hdependent
      · rcases (hspec.created_iff first rest hfirst).mp hcreated with hneeds' | ⟨-, hroom⟩
        · rw [hneeds] at hneeds'
          cases hneeds'
        · omega
      · exact hdependent

end ResourceGroup

namespace Catalog

open ResourceGroup

theorem reportsDependencies_iff_shop :
    ∃ catalog resource, ofEndpoints shopEndpoints .standard = .ok catalog ∧
      resource ∈ catalog.resources ∧ readShop ∈ resource.calls ∧ readShop.verb ≠ .post ∧
      let prepared := (catalog.resources.prepare resource none 1 readShop firstChooser).1
      (catalog.resources.ReportsDependencies resource prepared ↔
        (catalog.resources.LacksCreator resource prepared →
          resource.ancestors.length < prepared.inserted.length)) := by
  obtain ⟨catalog, resource, hbuilt, hresource, hcalls, -⟩ := exists_shop
  have hverb : readShop.verb ≠ .post := by decide
  refine ⟨catalog, resource, hbuilt, hresource, ?_, hverb, ?_⟩
  · rw [hcalls]
    exact List.mem_cons_self
  · exact reportsDependencies_iff catalog.resources resource hverb 1 firstChooser

/-- Endpoints without the POST that creates an `A`. -/
def gapEndpoints : List Endpoint :=
  [{ method := "POST", path := "/A/{a}/B" }, { method := "GET", path := "/A/{a}/B/{b}" }]

/-- The call that reads a `B`. -/
def readB : Call := { verb := .get, path := "/A/{a}/B/{b}" }

/-- Preparing the reading of a `B` is reported as a success, although its sequence begins with
a POST that needs an `A` and the chain of the resource is incomplete for that reason. -/
theorem not_reportsDependencies_gap :
    ∃ catalog resource, ofEndpoints gapEndpoints .standard = .ok catalog ∧
      resource ∈ catalog.resources ∧ readB ∈ resource.calls ∧
      resource.creations.postChain?.map CreationChain.status = some .incomplete ∧
      (catalog.resources.prepare resource none 1 readB firstChooser).1.status = .created ∧
      ¬ catalog.resources.ReportsDependencies resource
        (catalog.resources.prepare resource none 1 readB firstChooser).1 := by
  have hevaluated : (ofEndpoints gapEndpoints .standard).toOption.any (fun catalog =>
      (catalog.resourceAt? readB.path).any fun resource =>
        let prepared := (catalog.resources.prepare resource none 1 readB firstChooser).1
        resource.calls = [readB] &&
          resource.creations.postChain?.map CreationChain.status = some .incomplete &&
          prepared.status = .created &&
          prepared.inserted.head?.any fun first => first.restPath.needsDependency) = true := by
    decide +kernel
  obtain ⟨catalog, hbuilt, hany⟩ := exists_of_any hevaluated
  obtain ⟨resource, hfound, hfacts⟩ := (Option.any_eq_true _ _).mp hany
  simp only [Bool.and_eq_true, decide_eq_true_eq] at hfacts
  obtain ⟨⟨⟨hcalls, hchain⟩, hcreated⟩, hneeds⟩ := hfacts
  refine ⟨catalog, resource, hbuilt, mem_resources_of_resourceAt? hfound, ?_, hchain, hcreated, ?_⟩
  · rw [hcalls]
    exact List.mem_cons_self
  · intro reports
    obtain ⟨first, rest, hfirst, -, hneeds'⟩ := reports.selfSufficient hcreated
    rw [hfirst, List.head?_cons, Option.any_some, hneeds'] at hneeds
    cases hneeds

end Catalog

end RestCatalog
