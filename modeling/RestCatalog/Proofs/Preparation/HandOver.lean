import Mathlib.Data.List.Chain
import RestCatalog.Proofs.Catalog.Lookup
import RestCatalog.Proofs.Catalog.SetUp
import RestCatalog.Proofs.Preparation.Run

/-!
# Locations are handed on soundly

A prepared POST gets its own location first, from the calls in front of it, and only then
hands one on to the call behind it: its own if both are on one path, and otherwise the one
that its response announces.  `HandsOn` says this of two neighbouring calls, and
`PreparationRun.linked` of a whole sequence that was prepared with success; the step
outwards changes the last call of the inner sequence in nothing that its neighbour has seen
(`isChain_concat_congr`).

From the neighbours and the first call, which has no location, it follows that whatever
location a call uses was kept by a call in front of it (`exists_saved`).  `sampleCalls_handedOn`
states all of this of the sequences that a catalog samples.
-/

namespace RestCatalog

/-- How a call of a sequence hands a location on to the next one. -/
structure HandsOn (earlier later : Call) : Prop where
  /-- Only a call on another path keeps the location that its response announces. -/
  saves_iff : earlier.savesLocation = true ↔ earlier.restPath.isEquivalent later.restPath = false
  of_saves : earlier.savesLocation = true → later.locationId = some earlier.restPath.lastText
  of_not_saves : earlier.savesLocation = false → later.locationId = earlier.locationId

theorem handsOn_handOver (post target : Call) :
    HandsOn (handOver post target).1 (handOver post target).2 := by
  unfold handOver
  split
  case isTrue hsame =>
    constructor
    case saves_iff => simpa [Call.restPath] using hsame
    case of_saves => simp
    case of_not_saves => simp
  case isFalse hother =>
    constructor
    case saves_iff => simpa [Call.restPath] using hother
    case of_saves => simp [Call.restPath]
    case of_not_saves => simp

theorem locationId_handOver (post target : Call) :
    (handOver post target).1.locationId = post.locationId := by
  unfold handOver
  split <;> rfl

/-- What a call hands on depends on the path and the location of the next one. -/
theorem HandsOn.congr {earlier later other : Call} (hands : HandsOn earlier later)
    (alike : other.Alike later) (hlocation : other.locationId = later.locationId) :
    HandsOn earlier other := by
  constructor
  case saves_iff =>
    rw [alike.restPath_eq]
    exact hands.saves_iff
  case of_saves =>
    rw [hlocation]
    exact hands.of_saves
  case of_not_saves =>
    rw [hlocation]
    exact hands.of_not_saves

private theorem isChain_concat_congr {before : List Call} {last other : Call}
    (hchain : (before ++ [last]).IsChain HandsOn) (alike : other.Alike last)
    (hlocation : other.locationId = last.locationId) : (before ++ [other]).IsChain HandsOn := by
  rw [List.isChain_append] at hchain ⊢
  obtain ⟨hbefore, -, hlast⟩ := hchain
  refine ⟨hbefore, List.isChain_singleton _, ?_⟩
  intro call hcall next hnext
  obtain rfl : other = next := by simpa using hnext
  exact (hlast call hcall last (by simp)).congr alike hlocation

/-- The first call uses no location, and every call hands on to the next one. -/
structure Linked (calls : List Call) : Prop where
  first : ∀ call, calls.head? = some call → call.locationId = none
  isChain : calls.IsChain HandsOn

namespace Linked

variable {calls before after : List Call} {call last other : Call} {location : String}

/-- Behind a prepared POST stands the call that it hands on to. -/
theorem handOver (linked : Linked (before ++ [last])) (target : Call) :
    Linked (before ++ [(handOver last target).1] ++ [(RestCatalog.handOver last target).2]) := by
  have halike := (handOver_alike last target).1
  have hlocation := locationId_handOver last target
  have hchain := isChain_concat_congr linked.isChain halike hlocation
  constructor
  case first =>
    intro call hcall
    cases before with
    | nil =>
        obtain rfl : (RestCatalog.handOver last target).1 = call := by simpa using hcall
        rw [hlocation]
        exact linked.first last rfl
    | cons first rest =>
        exact linked.first call (by simpa using hcall)
  case isChain =>
    rw [List.append_assoc, List.singleton_append, List.isChain_append_cons_cons]
    exact ⟨hchain, handsOn_handOver last target, List.isChain_singleton _⟩

/-- The location that a call uses was kept by a call in front of it. -/
theorem exists_saved (linked : Linked calls) (hcalls : calls = before ++ call :: after)
    (hlocation : call.locationId = some location) :
    ∃ earlier ∈ before, earlier.savesLocation = true ∧ earlier.restPath.lastText = location := by
  -- the location is followed back to the call that did not merely pass it on
  induction before using List.reverseRecOn generalizing call after with
  | nil =>
      rw [linked.first call (by rw [hcalls]; rfl)] at hlocation
      cases hlocation
  | append_singleton before earlier ih =>
      have hcalls' : calls = before ++ earlier :: call :: after := by
        rw [hcalls, List.append_assoc]
        rfl
      have hands : HandsOn earlier call := by
        have hchain := linked.isChain
        rw [hcalls'] at hchain
        exact (List.isChain_append_cons_cons.mp hchain).2.1
      cases hsaves : earlier.savesLocation with
      | true =>
          refine ⟨earlier, by simp, hsaves, ?_⟩
          exact Option.some.inj ((hands.of_saves hsaves).symm.trans hlocation)
      | false =>
          rw [hands.of_not_saves hsaves] at hlocation
          obtain ⟨kept, hkept, hspec⟩ := ih hcalls' hlocation
          exact ⟨kept, List.mem_append_left _ hkept, hspec⟩

end Linked

namespace ResourceGroup

variable {σ : Type} [ChoiceSource σ] {group : ResourceGroup} {resource : Resource}
  {limit : Option Int} {fuel length : Nat} {target : Call} {chooser : Chooser σ}
  {prepared : Preparation × Chooser σ}

/-- A preparation that succeeds hands the locations on to a target without one. -/
theorem PreparationRun.linked
    (run : group.PreparationRun resource limit fuel length target chooser prepared)
    (hlocation : target.locationId = none) (hcreated : prepared.1.status = .created) :
    Linked prepared.1.sequence := by
  have halone : ∀ call : Call, call.locationId = none → Linked [call] := by
    intro call hnone
    constructor
    case first =>
      intro other hother
      obtain rfl : call = other := by simpa using hother
      exact hnone
    case isChain => exact List.isChain_singleton call
  induction run with
  | full => cases hcreated
  | missing => exact halone _ hlocation
  | @settled _ _ target pattern =>
      have linked : Linked ([] ++ [pattern.createdFor target]) := halone _ rfl
      unfold Preparation.sequence
      dsimp only
      rw [← List.nil_append [(handOver (pattern.createdFor target) target).1]]
      exact linked.handOver target
  | exhausted => cases hcreated
  | @further _ _ target _ _ _ _ inner _ _ _ _ ih =>
      have hinner : inner.status = .created :=
        Preparation.status_followedBy_eq_created.mp hcreated
      have linked : Linked (inner.inserted ++ [inner.target]) := ih rfl hinner
      rw [Preparation.sequence_followedBy hinner]
      exact linked.handOver target

end ResourceGroup

/-- A sequence of calls along which locations are handed on soundly. -/
structure SoundlyHandedOn (calls : List Call) : Prop extends Linked calls where
  last : ∀ call, calls.getLast? = some call → call.savesLocation = false
  /-- Every location in use was kept by an earlier call whose path ends in it. -/
  saved : ∀ before call after location, calls = before ++ call :: after →
    call.locationId = some location →
      ∃ earlier ∈ before, earlier.savesLocation = true ∧ earlier.restPath.lastText = location

namespace Catalog

variable {σ : Type} [ChoiceSource σ] {config : Config} {endpoints : List Endpoint}
  {catalog : Catalog} {name : String} {target : Call} {limit : Option Int}
  {chooser later : Chooser σ} {status : PreparationStatus} {calls : List Call}

theorem exists_resource_of_findCall (hfound : catalog.findCall name = .ok target) :
    ∃ resource ∈ catalog.resources, target ∈ resource.calls := by
  unfold findCall at hfound
  split at hfound
  · cases hfound
  · split at hfound
    case h_1 place index _ call hcall =>
      cases hfound
      obtain ⟨resource, hplace, hindex⟩ := Option.bind_eq_some_iff.mp hcall
      exact ⟨resource, List.mem_of_getElem? hplace, List.mem_of_getElem? hindex⟩
    case h_2 => cases hfound

/-- The calls of endpoints take no part in any hand-over. -/
theorem noLocation_of_ofEndpoints (hbuilt : ofEndpoints endpoints config = .ok catalog)
    (hfound : catalog.findCall name = .ok target) :
    target.savesLocation = false ∧ target.locationId = none := by
  obtain ⟨resource, hresource, hcall⟩ := exists_resource_of_findCall hfound
  obtain ⟨key, -, holds⟩ := holdsCallsOf_of_mem hbuilt hresource
  rw [holds.calls_eq, List.mem_filter] at hcall
  obtain ⟨endpoint, -, hof⟩ := List.mem_filterMap.mp hcall.1
  unfold Call.ofEndpoint? at hof
  obtain ⟨verb, -, rfl⟩ := Option.map_eq_some_iff.mp hof
  exact ⟨rfl, rfl⟩

/-- A sampled sequence is prepared for the call that its name leads to, under some limit. -/
theorem exists_run_of_sampleCalls
    (hsampled : catalog.sampleCalls name limit chooser = (.ok (status, calls), later)) :
    ∃ target, ∃ resource ∈ catalog.resources, ∃ most prepared,
      catalog.findCall name = .ok target ∧
      catalog.resources.PreparationRun resource (some most) (resource.ancestors.length + 1) 1
        target chooser prepared ∧
      prepared.1.status = status ∧ prepared.1.sequence = calls := by
  unfold sampleCalls at hsampled
  split at hsampled
  · cases hsampled
  · split at hsampled
    · cases hsampled
    case h_2 target hfound _ resource hhome =>
      simp only [Prod.mk.injEq, Except.ok.injEq] at hsampled
      obtain ⟨⟨hstatus, hcalls⟩, -⟩ := hsampled
      exact ⟨target, resource, mem_resources_of_resourceAt? hhome, _, _, hfound,
        ResourceGroup.prepareFor_run _ _ _ _ 1 target chooser, hstatus, hcalls⟩

/-- In a sequence that was sampled with success for a call, locations are handed on soundly. -/
theorem sampleCalls_handedOn (hbuilt : ofEndpoints endpoints config = .ok catalog)
    (hsampled : catalog.sampleCalls name limit chooser = (.ok (.created, calls), later)) :
    ∃ target before location, catalog.findCall name = .ok target ∧
      calls = before ++ [{ target with locationId := location }] ∧ SoundlyHandedOn calls := by
  obtain ⟨target, resource, -, most, prepared, hfound, run, hstatus, rfl⟩ :=
    exists_run_of_sampleCalls hsampled
  obtain ⟨hkeeps, hnone⟩ := noLocation_of_ofEndpoints hbuilt hfound
  obtain ⟨location, htarget⟩ := run.target_eq
  have linked := run.linked hnone hstatus
  refine ⟨target, prepared.1.inserted, location, hfound, ?_, ?_⟩
  · rw [← htarget]
    rfl
  · constructor
    case toLinked => exact linked
    case last =>
      intro call hcall
      obtain rfl : prepared.1.target = call := by simpa [Preparation.sequence] using hcall
      rw [htarget]
      exact hkeeps
    case saved =>
      exact fun before call after location hcalls => linked.exists_saved hcalls

/-- Shops, and the items of a shop, whose creation is listed twice. -/
def itemEndpoints : List Endpoint :=
  [{ method := "POST", path := "/shops" }, { method := "POST", path := "/shops/{shopId}/items" },
    { method := "POST", path := "/shops/{shopId}/items" },
    { method := "GET", path := "/shops/{shopId}/items" }]

/-- The item is created in the shop that was created first, and read from there as well. -/
theorem sampleCalls_handedOn_items :
    ∃ catalog calls later, ofEndpoints itemEndpoints .standard = .ok catalog ∧
      catalog.sampleCalls "GET /shops/{shopId}/items" none firstChooser =
        (.ok (.created, calls), later) ∧
      calls.map (fun call => (call.verb, call.savesLocation, call.locationId)) =
        [(.post, true, none), (.post, false, some "shops"), (.get, false, some "shops")] ∧
      SoundlyHandedOn calls := by
  have hevaluated : (ofEndpoints itemEndpoints .standard).toOption.any (fun catalog =>
      match catalog.sampleCalls "GET /shops/{shopId}/items" none firstChooser with
      | (.ok (status, calls), _) => status = .created &&
          calls.map (fun call => (call.verb, call.savesLocation, call.locationId)) =
            [(.post, true, none), (.post, false, some "shops"), (.get, false, some "shops")]
      | (.error _, _) => false) = true := by
    decide +kernel
  obtain ⟨catalog, hbuilt, hfacts⟩ := exists_of_any hevaluated
  split at hfacts
  case h_1 status calls later hsampled =>
    simp only [Bool.and_eq_true, decide_eq_true_eq] at hfacts
    obtain ⟨rfl, hcalls⟩ := hfacts
    obtain ⟨-, -, -, -, -, handed⟩ := sampleCalls_handedOn hbuilt hsampled
    exact ⟨catalog, calls, later, hbuilt, hsampled, hcalls, handed⟩
  case h_2 => cases hfacts

end Catalog

end RestCatalog
