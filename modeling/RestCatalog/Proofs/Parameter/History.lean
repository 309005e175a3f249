import RestCatalog.Proofs.Path.Token
import RestCatalog.Proofs.Resource.Operation

/-!
# What stays known about the parameters of a resource

Once a parameter is known, it stays known: under its key, with the segment, the place of the
segment and all else that was found out about it at first.  Only the verbs grow, and that it is
additional is never taken back (`ParamInfo.GrowsTo`).

The segment of a parameter is read off its level, while the segments of the path are read off
the levels that end one.  With one token for each element both meet, so every known parameter
has a place among the segments (`ParamInfo.PlacedAt`).  `ParamHistory` puts the two together for
every moment after a set-up, and `ResourceGroup.paramHistory` proves it for every resource whose
path has one token for each element.
-/

namespace RestCatalog

namespace ParamInfo

variable {info between later : ParamInfo} {segments : List String} {key : String}

/-- What later knowledge about a parameter has kept. -/
structure GrowsTo (info later : ParamInfo) : Prop where
  name_eq : later.name = info.name
  key_eq : later.key = info.key
  segment_eq : later.segment = info.segment
  segmentLevel_eq : later.segmentLevel = info.segmentLevel
  param_eq : later.param = info.param
  missing_eq : later.missing = info.missing
  verbs_prefix : info.verbs <+: later.verbs
  isAdditional_kept : info.isAdditional = true → later.isAdditional = true

theorem GrowsTo.refl (info : ParamInfo) : info.GrowsTo info :=
  ⟨rfl, rfl, rfl, rfl, rfl, rfl, List.prefix_refl _, id⟩

theorem GrowsTo.trans (grows : info.GrowsTo between) (grows' : between.GrowsTo later) :
    info.GrowsTo later where
  name_eq := grows'.name_eq.trans grows.name_eq
  key_eq := grows'.key_eq.trans grows.key_eq
  segment_eq := grows'.segment_eq.trans grows.segment_eq
  segmentLevel_eq := grows'.segmentLevel_eq.trans grows.segmentLevel_eq
  param_eq := grows'.param_eq.trans grows.param_eq
  missing_eq := grows'.missing_eq.trans grows.missing_eq
  verbs_prefix := grows.verbs_prefix.trans grows'.verbs_prefix
  isAdditional_kept := grows'.isAdditional_kept ∘ grows.isAdditional_kept

theorem growsTo_met (info : ParamInfo) (verb : Verb) (additional : Bool) :
    info.GrowsTo (info.met verb additional) := by
  refine ⟨rfl, rfl, rfl, rfl, rfl, rfl, ?_, ?_⟩
  · unfold met addNew
    dsimp only
    split
    · exact List.prefix_refl _
    · exact List.prefix_append _ _
  · intro hadditional
    unfold met
    dsimp only
    rw [hadditional, Bool.or_true]

/-- Knowledge under a key that is its own, the key of the parameter in its segment, with the
place of that segment among those of a path. -/
structure PlacedAt (info : ParamInfo) (segments : List String) (key : String) : Prop where
  key_eq : info.key = key
  key_param : info.key = info.param.key info.segment
  segment_eq : ∃ place, info.segmentLevel = some place ∧ segments[place]? = some info.segment

theorem PlacedAt.met (placed : info.PlacedAt segments key) (verb : Verb) (additional : Bool) :
    (info.met verb additional).PlacedAt segments key :=
  ⟨placed.key_eq, placed.key_param, placed.segment_eq⟩

end ParamInfo

namespace Resource

variable {resource between later : Resource} {params : List Param} {ref : ParamRef params}
  {verb : Verb} {additional : Bool} {info : ParamInfo}

/-- Every known parameter has its place among the segments of a path. -/
structure ParamsPlaced (segments : List String) (known : OrderedMap String ParamInfo) : Prop where
  nodup_keys : known.keys.Nodup
  placed : ∀ entry ∈ known.entries, entry.2.PlacedAt segments entry.1

/-- What is known later is what was known, grown, with new parameters behind it. -/
structure ParamsKept (known later : OrderedMap String ParamInfo) : Prop where
  keys_prefix : known.keys <+: later.keys
  grows : ∀ key info, known.get? key = some info →
    ∃ grown, later.get? key = some grown ∧ info.GrowsTo grown

theorem ParamsKept.refl (known : OrderedMap String ParamInfo) : ParamsKept known known :=
  ⟨List.prefix_refl _, fun _ info hget => ⟨info, hget, .refl info⟩⟩

theorem ParamsKept.trans {known between later : OrderedMap String ParamInfo}
    (kept : ParamsKept known between) (kept' : ParamsKept between later) :
    ParamsKept known later := by
  refine ⟨kept.keys_prefix.trans kept'.keys_prefix, ?_⟩
  intro key info hget
  obtain ⟨grown, hgrown, grows⟩ := kept.grows key info hget
  obtain ⟨last, hlast, grows'⟩ := kept'.grows key grown hgrown
  exact ⟨last, hlast, grows.trans grows'⟩

/-! ## Entering one parameter -/

/-- What is known about a parameter keeps it, whatever else is entered. -/
theorem paramsKept_of_noteParam?
    (hnoted : resource.noteParam? verb ref additional = some (later, info)) :
    ParamsKept resource.params later.params := by
  obtain ⟨level, -, hinfo, rfl⟩ := noteParam?_eq_some hnoted
  refine ⟨OrderedMap.keys_prefix_insert _ _ _, ?_⟩
  intro key old hget
  dsimp only
  rw [OrderedMap.get?_insert]
  split
  case isTrue hkey =>
    have hknown : resource.knownParam ref.param level = old := by
      unfold knownParam
      rw [← hkey, hget, Option.getD_some]
    refine ⟨info, rfl, ?_⟩
    rw [hinfo, hknown]
    exact old.growsTo_met verb additional
  case isFalse => exact ⟨old, hget, .refl old⟩

/-- A resource whose path has one token for each element. -/
structure Tokenized (resource : Resource) : Prop where
  isEmpty_eq : resource.tokens.isEmpty = false
  covers : resource.tokens.Covers resource.path

/-- A parameter that was not met before has its segment among those of the path. -/
theorem Tokenized.placed_newParamInfo (tokenized : resource.Tokenized) {level : Nat}
    (hlevel : resource.paramLevel? ref = some level) :
    (resource.newParamInfo ref.param level).PlacedAt (resource.segments true)
      (resource.newParamInfo ref.param level).key := by
  have hsegment : resource.tokens.segmentAt level true ∈ resource.segments true :=
    tokenized.covers.segmentAt_mem_segments tokenized.isEmpty_eq (paramLevel?_cases hlevel) true
  obtain ⟨place, hplace⟩ := List.mem_iff_getElem?.mp hsegment
  refine ⟨rfl, rfl, ?_⟩
  -- the place is the first one that has the segment
  cases hfind : (resource.segments true).findIdx?
      (· = resource.tokens.segmentAt level true) with
  | none =>
      rw [List.findIdx?_eq_none_iff] at hfind
      simpa using hfind _ hsegment
  | some first =>
      obtain ⟨hlt, hfirst, -⟩ := List.findIdx?_eq_some_iff_getElem.mp hfind
      refine ⟨first, hfind, ?_⟩
      rw [List.getElem?_eq_getElem hlt, of_decide_eq_true hfirst]
      rfl

theorem Tokenized.placed_of_noteParam? (tokenized : resource.Tokenized)
    (placed : ParamsPlaced (resource.segments true) resource.params)
    (hnoted : resource.noteParam? verb ref additional = some (later, info)) :
    ParamsPlaced (resource.segments true) later.params := by
  obtain ⟨level, hlevel, hinfo, rfl⟩ := noteParam?_eq_some hnoted
  have hknown : (resource.knownParam ref.param level).PlacedAt (resource.segments true)
      (resource.newParamInfo ref.param level).key := by
    unfold knownParam
    cases hget : resource.params.get? (resource.newParamInfo ref.param level).key with
    | none => exact tokenized.placed_newParamInfo hlevel
    | some old => exact placed.placed _ (OrderedMap.mem_entries_of_get? hget)
  constructor
  case nodup_keys => exact OrderedMap.nodup_keys_insert placed.nodup_keys _ _
  case placed =>
    refine OrderedMap.forall_mem_insert placed.placed ?_
    rw [hinfo]
    exact hknown.met verb additional

/-! ## Entering parameters one after the other -/

theorem ParamsEntered.kept (entered : ParamsEntered resource later) :
    ParamsKept resource.params later.params := by
  induction entered with
  | none => exact .refl _
  | note _ hnoted ih => exact ih.trans (paramsKept_of_noteParam? hnoted)

theorem ParamsEntered.placed (entered : ParamsEntered resource later)
    (tokenized : resource.Tokenized)
    (placed : ParamsPlaced (resource.segments true) resource.params) :
    ParamsPlaced (resource.segments true) later.params := by
  induction entered with
  | none => exact placed
  | note entered hnoted ih =>
      -- the path and its tokens are those of the resource throughout
      obtain ⟨params, rfl⟩ := entered.eq_withParams
      have tokenized' : Tokenized { resource with params } :=
        ⟨tokenized.isEmpty_eq, tokenized.covers⟩
      exact tokenized'.placed_of_noteParam? ih hnoted

/-- Tokens are only there in a mode that reads them. -/
theorem usesTokens_of_tokens (hsome : resource.tokens.isEmpty = false) :
    resource.mode.usesTokens = true := by
  unfold tokens at hsome
  split at hsome
  case isTrue hmode => exact hmode
  case isFalse => cases hsome

end Resource

namespace ResourceGroup

open Resource

variable {σ : Type} [ChoiceSource σ] {group : ResourceGroup} {resource ready : Resource}
  {operation : ResourceOperation σ} {operations before after : List (ResourceOperation σ)}

/-! ## One operation, and many -/

/-- An operation that is no set-up keeps what is known about the parameters. -/
theorem paramsKept_step (group : ResourceGroup) (resource : Resource)
    (hother : ¬ operation.IsSetUp) :
    ParamsKept resource.params (group.step resource operation).params := by
  obtain ⟨noted, templates, creations, tables, entered, hstep⟩ := group.step_eq resource hother
  rw [hstep]
  exact entered.kept

theorem placed_step (group : ResourceGroup) (hother : ¬ operation.IsSetUp)
    (tokenized : resource.Tokenized)
    (placed : ParamsPlaced (resource.segments true) resource.params) :
    (group.step resource operation).Tokenized ∧
      ParamsPlaced ((group.step resource operation).segments true)
        (group.step resource operation).params := by
  obtain ⟨noted, templates, creations, tables, entered, hstep⟩ := group.step_eq resource hother
  have hplaced := entered.placed tokenized placed
  obtain ⟨params, rfl⟩ := entered.eq_withParams
  rw [hstep]
  exact ⟨⟨tokenized.isEmpty_eq, tokenized.covers⟩, hplaced⟩

theorem paramsKept_run (group : ResourceGroup) (resource : Resource)
    (hother : ∀ operation ∈ operations, ¬ operation.IsSetUp) :
    ParamsKept resource.params (group.run resource operations).params := by
  induction operations generalizing resource with
  | nil => exact .refl _
  | cons operation rest ih =>
      obtain ⟨hfirst, hrest⟩ := List.forall_mem_cons.mp hother
      exact (group.paramsKept_step resource hfirst).trans (ih _ hrest)

theorem placed_run (hother : ∀ operation ∈ operations, ¬ operation.IsSetUp)
    (tokenized : resource.Tokenized)
    (placed : ParamsPlaced (resource.segments true) resource.params) :
    ParamsPlaced ((group.run resource operations).segments true)
      (group.run resource operations).params := by
  induction operations generalizing resource with
  | nil => exact placed
  | cons operation rest ih =>
      obtain ⟨hfirst, hrest⟩ := List.forall_mem_cons.mp hother
      obtain ⟨tokenized', placed'⟩ := group.placed_step hfirst tokenized placed
      exact ih hrest tokenized' placed'

/-! ## After a set-up -/

/-- With tokens, a set-up that is not refused ends with starting over with the parameters. -/
theorem exists_initParams_of_init {withRows : Bool}
    (hinit : group.init resource withRows = (ready, none))
    (htokens : ready.mode.usesTokens = true) : ∃ start : Resource, ready = start.initParams := by
  unfold init at hinit
  cases hverbs : group.initVerbs resource withRows with
  | mk entered refused =>
      rw [hverbs] at hinit
      cases refused with
      | some error => cases hinit
      | none =>
          dsimp only at hinit
          split at hinit
          case isTrue =>
            cases hinit
            exact ⟨_, rfl⟩
          case isFalse hunused =>
            cases hinit
            exact absurd htokens hunused

/-- What holds of the parameters of a resource after the operations `before`, and what of that
still holds after the operations `after`. -/
structure ParamHistory (group : ResourceGroup) (ready : Resource)
    (before after : List (ResourceOperation σ)) : Prop where
  /-- Every parameter is known under its key, and its segment is one of those of the path. -/
  placed : ParamsPlaced ((group.run ready before).segments true) (group.run ready before).params
  /-- No parameter is forgotten, and what was known about it is kept. -/
  kept : ParamsKept (group.run ready before).params (group.run ready (before ++ after)).params
  /-- An addition of the parameters of a call tells exactly what it has put behind the rest. -/
  entries_noteAdditional : ∀ call later added,
    (group.run ready before).noteAdditional call = .ok (later, added) →
      later.params.entries = (group.run ready before).params.entries ++ (added.getD {}).entries

/-- What is known about the parameters of a resource is kept after its set-up, if its path has
tokens, one for each element. -/
theorem paramHistory {withRows : Bool} (hinit : group.init resource withRows = (ready, none))
    (hsome : ready.tokens.isEmpty = false) (hsize : ready.tokens.size = ready.path.levels)
    (hother : ∀ operation ∈ before ++ after, ¬ operation.IsSetUp) :
    group.ParamHistory ready before after := by
  have htokens := usesTokens_of_tokens hsome
  have tokenized : ready.Tokenized := by
    refine ⟨hsome, ?_⟩
    unfold Resource.tokens at hsome hsize ⊢
    rw [if_pos htokens] at hsome hsize ⊢
    exact TokenMap.covers_ofPath hsome hsize
  have hplaced : ParamsPlaced (ready.segments true) ready.params := by
    obtain ⟨start, rfl⟩ := exists_initParams_of_init hinit htokens
    have hstart := start.paramsEntered_initParams
    obtain ⟨params, hready⟩ := hstart.eq_withParams
    rw [hready] at tokenized hstart ⊢
    exact hstart.placed ⟨tokenized.isEmpty_eq, tokenized.covers⟩ ⟨List.nodup_nil, nofun⟩
  obtain ⟨hbefore, hafter⟩ := List.forall_mem_append.mp hother
  constructor
  case placed => exact placed_run hbefore tokenized hplaced
  case kept =>
    rw [run_append]
    exact group.paramsKept_run _ hafter
  case entries_noteAdditional => exact fun call later added => Resource.entries_noteAdditional

/-- A call that lists the items of a shop. -/
def listItems (params : List Param) : Call :=
  { verb := .get
    path := "/shops/{shopId}/items"
    params := { name := "shopId", location := "path" } :: params }

/-- The items of a shop, before the set-up. -/
def shopItems : Resource := { path := (listItems []).restPath, calls := [listItems []] }

/-- The page of the items is asked for after the set-up only. -/
theorem paramHistory_shopItems :
    ∃ ready, init [] shopItems false = (ready, none) ∧ ready.tokens.isEmpty = false ∧
      ready.tokens.size = ready.path.levels ∧
      ParamHistory [] ready
        ([.noteParams (listItems [{ name := "page", location := "query" }])] :
          List (ResourceOperation Script))
        [.confirmTable "items"] := by
  have haccepted : (init [] shopItems false).2 = none := by decide +kernel
  have hinit : init [] shopItems false = ((init [] shopItems false).1, none) :=
    Prod.ext rfl haccepted
  have hsome : (init [] shopItems false).1.tokens.isEmpty = false := by decide +kernel
  have hsize : (init [] shopItems false).1.tokens.size =
      (init [] shopItems false).1.path.levels := by
    decide +kernel
  refine ⟨_, hinit, hsome, hsize, paramHistory hinit hsome hsize ?_⟩
  simp [ResourceOperation.IsSetUp]

end ResourceGroup

end RestCatalog
