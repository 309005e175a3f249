import RestCatalog.Proofs.Preparation.HandOver
import RestCatalog.Proofs.Preparation.Limit

/-!
# Prepared calls share path parameters

A call that is put in front of another one is a copy of a POST of the catalog, and takes over the
path parameters that the other call has under the same names.  `CopiedFor` says of each
parameter of the copy where it comes from.

* One insertion is such a copy (`Call.copiedFor_createdFor`): a name leads to the last path
  parameter that has it (`pathParamNamed?_eq_some_iff`), and from there to itself, so
  sharing twice is sharing once (`Call.bindParams_bindParams`).
* The call that a POST is created for may get another location later on, and keep a location
  itself, but its parameters stay.  So a copy of a call remains one in the finished
  sequence (`Call.CopiedFor.congr`), and `PreparationRun.copies` holds of all neighbours in it,
  however the preparation ends.
-/

namespace RestCatalog

/-- A path parameter with a name, letter case apart. -/
def Param.IsPathNamed (param : Param) (name : String) : Prop :=
  param.isPath = true ∧ param.lowerName = Text.lower name

namespace Call

variable {params others : List Param} {name : String} {param other : Param}
  {pattern next copy : Call}

/-! ## Looking a name up -/

theorem pathParamNamed?_eq_some_iff :
    pathParamNamed? params name = some param ↔
      ∃ before after, params = before ++ param :: after ∧ param.IsPathNamed name ∧
        ∀ later ∈ after, ¬ later.IsPathNamed name := by
  unfold pathParamNamed? Param.IsPathNamed
  rw [List.getLast?_filter, List.find?_eq_some_iff_append]
  simp only [Bool.and_eq_true, Bool.not_eq_true', ← Bool.not_eq_true, decide_eq_true_eq]
  -- the list is searched from its end
  constructor
  · rintro ⟨hnamed, after, before, hreverse, hafter⟩
    refine ⟨before.reverse, after.reverse, ?_, hnamed, ?_⟩
    · rw [← List.reverse_reverse params, hreverse, List.reverse_append, List.reverse_cons,
        List.append_assoc, List.singleton_append]
    · exact fun later hlater => hafter later (List.mem_reverse.mp hlater)
  · rintro ⟨before, after, hparams, hnamed, hafter⟩
    refine ⟨hnamed, after.reverse, before.reverse, ?_, ?_⟩
    · rw [hparams, List.reverse_append, List.reverse_cons, List.append_assoc,
        List.singleton_append]
    · exact fun later hlater => hafter later (List.mem_reverse.mp hlater)

theorem pathParamNamed?_eq_none_iff :
    pathParamNamed? params name = none ↔ ∀ param ∈ params, ¬ param.IsPathNamed name := by
  unfold pathParamNamed? Param.IsPathNamed
  rw [List.getLast?_eq_none_iff, List.filter_eq_nil_iff]
  simp only [Bool.and_eq_true, decide_eq_true_eq]

/-- Only the letter case of the name that is looked up may differ. -/
theorem pathParamNamed?_congr {otherName : String} (hname : Text.lower name = Text.lower otherName) :
    pathParamNamed? params name = pathParamNamed? params otherName := by
  unfold pathParamNamed?
  rw [hname]

/-! ## Sharing parameters -/

theorem boundParam_of_none (hnone : param.isPath = true → pathParamNamed? others param.name = none) :
    boundParam others param = param := by
  unfold boundParam
  split
  case isTrue hpath => rw [hnone hpath, Option.getD_none]
  case isFalse => rfl

theorem boundParam_of_some (hpath : param.isPath = true)
    (hnamed : pathParamNamed? others param.name = some other) :
    boundParam others param = other := by
  unfold boundParam
  rw [if_pos hpath, hnamed, Option.getD_some]

/-- A parameter that was taken over is taken over from itself. -/
theorem boundParam_boundParam (others : List Param) (param : Param) :
    boundParam others (boundParam others param) = boundParam others param := by
  by_cases hpath : param.isPath = true
  case neg =>
    have hsame : boundParam others param = param := boundParam_of_none fun h => absurd h hpath
    rw [hsame, hsame]
  case pos =>
    cases hnamed : pathParamNamed? others param.name with
    | none =>
        have hsame : boundParam others param = param := boundParam_of_none fun _ => hnamed
        rw [hsame, hsame]
    | some other =>
        obtain ⟨-, -, -, ⟨hpath', hname⟩, -⟩ := pathParamNamed?_eq_some_iff.mp hnamed
        rw [boundParam_of_some hpath hnamed]
        refine boundParam_of_some hpath' ?_
        rw [← hnamed]
        exact pathParamNamed?_congr hname

/-- Nothing but the parameters is asked for. -/
theorem bindParams_eq_self_iff {call : Call} :
    call.bindParams others = call ↔ call.params.map (boundParam others) = call.params := by
  unfold bindParams
  refine ⟨congrArg Call.params, fun hparams => ?_⟩
  rw [hparams]

/-- Sharing the same parameters a second time changes nothing. -/
theorem bindParams_bindParams (call : Call) (others : List Param) :
    (call.bindParams others).bindParams others = call.bindParams others := by
  rw [bindParams_eq_self_iff]
  unfold bindParams
  dsimp only
  rw [List.map_map]
  exact List.map_congr_left fun param _ => boundParam_boundParam others param

/-- A copy of a call that shares the path parameters of the next call. -/
structure CopiedFor (pattern next copy : Call) : Prop where
  alike : copy.Alike pattern
  length_eq : copy.params.length = pattern.params.length
  /-- What is no path parameter of the pattern, or is none of the next call, is the pattern's. -/
  own : ∀ (place : Nat) (param : Param), pattern.params[place]? = some param →
    (param.isPath = false ∨ ∀ other ∈ next.params, ¬ other.IsPathNamed param.name) →
      copy.params[place]? = some param
  /-- Any other parameter is the last one of its name that the next call has for its path. -/
  shared : ∀ (place : Nat) (param : Param), pattern.params[place]? = some param →
    param.isPath = true → (∃ other ∈ next.params, other.IsPathNamed param.name) →
      ∃ before last after, next.params = before ++ last :: after ∧ last.IsPathNamed param.name ∧
        (∀ later ∈ after, ¬ later.IsPathNamed param.name) ∧ copy.params[place]? = some last
  bound : copy.bindParams next.params = copy

theorem copiedFor_createdFor (pattern target : Call) :
    CopiedFor pattern target (pattern.createdFor target) := by
  have hparams : ∀ (place : Nat) (param : Param), pattern.params[place]? = some param →
      (pattern.createdFor target).params[place]? = some (boundParam target.params param) := by
    intro place param hparam
    unfold createdFor bindParams
    dsimp only
    rw [List.getElem?_map, hparam, Option.map_some]
  constructor
  case alike => exact createdFor_alike pattern target
  case length_eq => exact List.length_map _
  case own =>
    intro place param hparam hnone
    rw [hparams place param hparam, boundParam_of_none]
    intro hpath
    refine pathParamNamed?_eq_none_iff.mpr (hnone.resolve_left ?_)
    simp [hpath]
  case shared =>
    rintro place param hparam hpath ⟨other, hother, hnamed⟩
    cases hlast : pathParamNamed? target.params param.name with
    | none => exact absurd hnamed (pathParamNamed?_eq_none_iff.mp hlast other hother)
    | some last =>
        obtain ⟨before, after, hsplit, hnamed, hafter⟩ := pathParamNamed?_eq_some_iff.mp hlast
        refine ⟨before, last, after, hsplit, hnamed, hafter, ?_⟩
        rw [hparams place param hparam, boundParam_of_some hpath hlast]
  case bound => exact bindParams_bindParams _ _

/-- Neither call is asked for its part in the hand-over of locations. -/
theorem CopiedFor.congr {next' copy' : Call} (copied : CopiedFor pattern next copy)
    (hcopy : copy'.outline = copy.outline) (hnext : next'.outline = next.outline) :
    CopiedFor pattern next' copy' := by
  obtain ⟨hname, hparams⟩ := Prod.mk.inj hcopy
  have hnextParams : next'.params = next.params := congrArg Prod.snd hnext
  constructor
  case alike => exact (alike_iff_name_eq.mpr hname).trans copied.alike
  case length_eq =>
    rw [hparams]
    exact copied.length_eq
  case own =>
    rw [hparams, hnextParams]
    exact copied.own
  case shared =>
    rw [hparams, hnextParams]
    exact copied.shared
  case bound =>
    rw [bindParams_eq_self_iff, hparams, hnextParams]
    exact bindParams_eq_self_iff.mp copied.bound

end Call

namespace ResourceGroup

variable {σ : Type} [ChoiceSource σ] {group : ResourceGroup} {resource : Resource}
  {limit : Option Int} {fuel length : Nat} {target pattern : Call} {chooser later : Chooser σ}
  {prepared : Preparation × Chooser σ} {calls others : List Call}

/-! ## Whole sequences -/

/-- A call is a copy of a POST in the group, for the call behind it. -/
def Copies (group : ResourceGroup) (copy next : Call) : Prop :=
  ∃ owner ∈ group, ∃ pattern ∈ owner.posts, Call.CopiedFor pattern next copy

/-- Copies are recognised by the outlines of a sequence. -/
theorem isChain_copies_congr (hsame : others.map Call.outline = calls.map Call.outline)
    (hchain : calls.IsChain group.Copies) : others.IsChain group.Copies := by
  have hlength : others.length = calls.length := by simpa using congrArg List.length hsame
  rw [List.isChain_iff_getElem] at hchain ⊢
  intro i hi
  obtain ⟨owner, howner, pattern, hpattern, copied⟩ := hchain i (hlength ▸ hi)
  have hplace : ∀ (place : Nat) (hothers : place < others.length) (hcalls : place < calls.length),
      others[place].outline = calls[place].outline := by
    intro place hothers hcalls
    have houtlines := List.getElem_of_eq hsame (i := place) (by rwa [List.length_map])
    rwa [List.getElem_map, List.getElem_map] at houtlines
  exact ⟨owner, howner, pattern, hpattern, copied.congr (hplace _ _ _) (hplace _ _ _)⟩

/-- What is put in front of a target is a copy of a POST in the group. -/
theorem copies_createdFor (hresource : resource ∈ group)
    (hchoice : group.chooseClosest resource target [.post] chooser = (some pattern, later)) :
    group.Copies (pattern.createdFor target) target := by
  have hmem := (mem_deepestCalls.mp (chooseClosest_eq_some hchoice).1).1
  obtain ⟨owner, howner, hcall⟩ := (mem_closestCandidates.mp hmem).exists_owner hresource
  have hpost : pattern.verb = .post := verb_of_chooseClosest hchoice
  exact ⟨owner, howner, pattern, mem_posts.mpr ⟨hcall, hpost⟩,
    Call.copiedFor_createdFor pattern target⟩

/-- In a prepared sequence every call in front of another one is a copy of a POST for it, however
the preparation ended. -/
theorem PreparationRun.copies
    (run : group.PreparationRun resource limit fuel length target chooser prepared)
    (hresource : resource ∈ group) : prepared.1.sequence.IsChain group.Copies := by
  induction run with
  | full => exact List.isChain_singleton _
  | missing => exact List.isChain_singleton _
  | @settled _ _ target pattern _ _ _ hchoice =>
      have hpair := List.isChain_pair.mpr (copies_createdFor hresource hchoice)
      refine isChain_copies_congr ?_ hpair
      obtain ⟨hpost, htarget⟩ := outline_handOver (pattern.createdFor target) target
      simp [Preparation.sequence, hpost, htarget]
  | exhausted _ hchoice => exact List.isChain_pair.mpr (copies_createdFor hresource hchoice)
  | @further _ _ target pattern _ _ _ inner _ hchoice _ run ih =>
      obtain ⟨location, htarget⟩ := run.target_eq
      obtain ⟨owner, howner, original, horiginal, copied⟩ := copies_createdFor hresource hchoice
      have hnext : group.Copies inner.target target := by
        refine ⟨owner, howner, original, horiginal, copied.congr ?_ rfl⟩
        rw [htarget]
        rfl
      have hchain : (inner.inserted ++ [inner.target, target]).IsChain group.Copies :=
        List.isChain_append_cons_cons.mpr ⟨ih, hnext, List.isChain_singleton target⟩
      refine isChain_copies_congr ?_ hchain
      unfold Preparation.sequence
      rw [List.map_append, List.map_singleton, Preparation.map_outline_followedBy,
        Preparation.outline_target_followedBy, List.map_append, List.map_cons, List.map_singleton,
        List.append_assoc, List.singleton_append]

end ResourceGroup

namespace Catalog

variable {σ : Type} [ChoiceSource σ] {catalog : Catalog} {name : String} {limit : Option Int}
  {chooser later : Chooser σ} {status : PreparationStatus} {calls : List Call}

/-- In a sampled sequence, whatever its status, every call but the last, which is the one asked
for, is a copy of a POST that shares the path parameters of the call behind it; and sharing the
same parameters twice is sharing them once. -/
theorem sampleCalls_sharesParams
    (hsampled : catalog.sampleCalls name limit chooser = (.ok (status, calls), later)) :
    (∃ target before location, catalog.findCall name = .ok target ∧
      calls = before ++ [{ target with locationId := location }]) ∧
    calls.IsChain catalog.resources.Copies ∧
    ∀ (call : Call) (others : List Param),
      (call.bindParams others).bindParams others = call.bindParams others := by
  obtain ⟨target, resource, hresource, most, prepared, hfound, run, -, rfl⟩ :=
    exists_run_of_sampleCalls hsampled
  obtain ⟨location, htarget⟩ := run.target_eq
  refine ⟨⟨target, prepared.1.inserted, location, hfound, ?_⟩, run.copies hresource,
    Call.bindParams_bindParams⟩
  rw [← htarget]
  rfl

/-- The items of a shop, whose creation is listed twice and whose shop is spelled in two ways. -/
def spellingEndpoints : List Endpoint :=
  [{ method := "POST", path := "/shops" },
    { method := "POST", path := "/shops/{shopId}/items"
      params := [{ name := "SHOPID", location := "path" }, { name := "item", location := "body" }] },
    { method := "POST", path := "/shops/{shopId}/items" },
    { method := "GET", path := "/shops/{shopId}/items"
      params := [{ name := "ShopID", location := "path" },
        { name := "shopId", location := "path", type := "integer" }] }]

/-- The item is created under the last spelling of its shop's name, and with its own body. -/
theorem sampleCalls_sharesParams_spelling :
    ∃ catalog calls later, ofEndpoints spellingEndpoints .standard = .ok catalog ∧
      catalog.sampleCalls "GET /shops/{shopId}/items" none firstChooser =
        (.ok (.created, calls), later) ∧
      calls.map (fun call => call.params.map fun param => (param.name, param.type)) =
        [[], [("shopId", "integer"), ("item", "string")],
          [("ShopID", "string"), ("shopId", "integer")]] ∧
      calls.IsChain catalog.resources.Copies := by
  have hevaluated : (ofEndpoints spellingEndpoints .standard).toOption.any (fun catalog =>
      match catalog.sampleCalls "GET /shops/{shopId}/items" none firstChooser with
      | (.ok (status, calls), _) => status = .created &&
          calls.map (fun call => call.params.map fun param => (param.name, param.type)) =
            [[], [("shopId", "integer"), ("item", "string")],
              [("ShopID", "string"), ("shopId", "integer")]]
      | (.error _, _) => false) = true := by
    decide +kernel
  obtain ⟨catalog, hbuilt, hfacts⟩ := exists_of_any hevaluated
  split at hfacts
  case h_1 status calls later hsampled =>
    simp only [Bool.and_eq_true, decide_eq_true_eq] at hfacts
    obtain ⟨rfl, hparams⟩ := hfacts
    exact ⟨catalog, calls, later, hbuilt, hsampled, hparams,
      (sampleCalls_sharesParams hsampled).2.1⟩
  case h_2 => cases hfacts

end Catalog

end RestCatalog
