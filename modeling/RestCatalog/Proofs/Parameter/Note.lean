import RestCatalog.Proofs.OrderedMap
import RestCatalog.Resource.Params

/-!
# Entering parameters

All that is known about the parameters of a resource is entered one parameter at a time: a
parameter that was met before is known with one more verb, and a new one is known from its
level in the path (`noteParam?_eq_some`).  `ParamsEntered` is the relation between a resource
and what entering some parameters, one after the other, makes of it.  A set-up starts over and
enters the parameters of all calls (`paramsEntered_initParams`), and so do the later additions
(`paramsEntered_noteAdditional`, `paramsEntered_noteAdditionalParam`).  Hence what entering one
parameter keeps, all of them keep.

An addition of several parameters tells which ones were new.  It has put exactly those behind
what was known, and touched nothing else (`entries_noteAdditional`).
-/

namespace RestCatalog

/-- What is known about a parameter once it is met with a verb. -/
def ParamInfo.met (info : ParamInfo) (verb : Verb) (additional : Bool) : ParamInfo :=
  { info with
    verbs := addNew info.verbs verb
    isAdditional := additional || info.isAdditional }

namespace Resource

variable {resource between later : Resource} {params : List Param} {ref : ParamRef params}
  {verb : Verb} {additional : Bool} {info : ParamInfo} {level : Nat}

/-- What is known about a parameter at a level, whether it was met before or not. -/
def knownParam (resource : Resource) (param : Param) (level : Nat) : ParamInfo :=
  (resource.params.get? (resource.newParamInfo param level).key).getD
    (resource.newParamInfo param level)

theorem noteParam?_eq_some (hnoted : resource.noteParam? verb ref additional = some (later, info)) :
    ∃ level, resource.paramLevel? ref = some level ∧
      info = (resource.knownParam ref.param level).met verb additional ∧
      later = { resource with
        params := resource.params.insert (resource.newParamInfo ref.param level).key info } := by
  unfold noteParam? at hnoted
  obtain ⟨level, hlevel, hresult⟩ := Option.map_eq_some_iff.mp hnoted
  cases hresult
  exact ⟨level, hlevel, rfl, rfl⟩

/-- The level of a parameter is that of a token with its name, or the end of the path if there is
none or if it is no path parameter. -/
theorem paramLevel?_eq_some (hlevel : resource.paramLevel? ref = some level) :
    (level = resource.path.levels ∧
        (ref.param.isPath = true → resource.tokens.parametersNamed ref.param.name = [])) ∨
      ∃ token ∈ resource.tokens.parametersNamed ref.param.name, token.level = level := by
  unfold paramLevel? at hlevel
  split at hlevel
  case isTrue hother =>
    refine .inl ⟨(Option.some.inj hlevel).symm, fun hpath => ?_⟩
    rw [hpath] at hother
    cases hother
  case isFalse =>
    split at hlevel
    case h_1 hnone => exact .inl ⟨(Option.some.inj hlevel).symm, fun _ => hnone⟩
    case h_2 token hnamed =>
      rw [hnamed]
      exact .inr ⟨token, List.mem_singleton_self _, Option.some.inj hlevel⟩
    case h_3 first others _ hnamed =>
      obtain ⟨rank, -, rfl⟩ := Option.map_eq_some_iff.mp hlevel
      -- a rank beyond the last element of the name stays at that element
      have hplace : min rank others.length < (first :: others).length :=
        Nat.lt_succ_of_le (Nat.min_le_right _ _)
      have hmem : (first :: others).getD (min rank others.length) first ∈ first :: others := by
        rw [List.getD_eq_getElem?_getD, List.getElem?_eq_getElem hplace, Option.getD_some]
        exact List.getElem_mem hplace
      rw [hnamed]
      exact .inr ⟨_, hmem, rfl⟩

/-- A parameter of a call always finds its level among the parameters of the call. -/
theorem exists_paramLevel?_member (resource : Resource) (place : Fin params.length) :
    ∃ level, resource.paramLevel? (.member place) = some level := by
  rw [← Option.isSome_iff_exists]
  unfold paramLevel?
  split
  · rfl
  · split <;> rfl

/-- The level of a parameter is the end of the path, or that of one of its parameters. -/
theorem paramLevel?_cases (hlevel : resource.paramLevel? ref = some level) :
    level = resource.path.levels ∨
      ∃ token ∈ resource.tokens.values, token.isParameter = true ∧ token.level = level := by
  rcases paramLevel?_eq_some hlevel with ⟨hend, -⟩ | ⟨token, htoken, hsame⟩
  · exact .inl hend
  · obtain ⟨hmem, hnamed⟩ := List.mem_filter.mp htoken
    exact .inr ⟨token, hmem, (Bool.and_eq_true _ _ ▸ hnamed).1, hsame⟩

/-! ## One parameter after the other -/

/-- What entering some parameters, one after the other, makes of a resource. -/
inductive ParamsEntered (resource : Resource) : Resource → Prop where
  | none : ParamsEntered resource resource
  | note {params : List Param} {ref : ParamRef params} {verb : Verb} {additional : Bool}
      {between later : Resource} {info : ParamInfo} (entered : ParamsEntered resource between)
      (hnoted : between.noteParam? verb ref additional = some (later, info)) :
      ParamsEntered resource later

namespace ParamsEntered

/-- Nothing but the parameters is changed. -/
theorem eq_withParams (entered : ParamsEntered resource later) :
    ∃ params, later = { resource with params } := by
  induction entered with
  | none => exact ⟨resource.params, rfl⟩
  | note _ hnoted ih =>
      obtain ⟨params, rfl⟩ := ih
      obtain ⟨level, -, -, rfl⟩ := noteParam?_eq_some hnoted
      exact ⟨_, rfl⟩

/-- What is true of a new parameter, and stays true when it is met again, is true of all that
is known. -/
theorem forall_known {P : ParamInfo → Prop} (entered : ParamsEntered resource later)
    (hmet : ∀ info verb additional, P info → P (info.met verb additional))
    (hnew : ∀ (params : List Param) (ref : ParamRef params) level,
      resource.paramLevel? ref = some level → P (resource.newParamInfo ref.param level))
    (hstart : ∀ entry ∈ resource.params.entries, P entry.2) :
    ∀ entry ∈ later.params.entries, P entry.2 := by
  induction entered with
  | none => exact hstart
  | @note params ref verb additional between later info entered hnoted ih =>
      obtain ⟨level, hlevel, hinfo, rfl⟩ := noteParam?_eq_some hnoted
      -- levels are read off the path, which is that of the resource throughout
      obtain ⟨known, rfl⟩ := entered.eq_withParams
      refine OrderedMap.forall_mem_insert ih ?_
      rw [hinfo]
      refine hmet _ _ _ ?_
      unfold knownParam
      dsimp only
      cases hget : known.get? (newParamInfo { resource with params := known } ref.param level).key with
      | none => exact hnew _ _ level hlevel
      | some old => exact ih _ (OrderedMap.mem_entries_of_get? hget)

end ParamsEntered

/-- What entering one parameter keeps, a call keeps. -/
theorem noteCall_induction {P : Resource → Prop}
    (hnote : ∀ between later verb params (ref : ParamRef params) info, P between →
      between.noteParam? verb ref false = some (later, info) → P later)
    (hstart : P resource) (call : Call) : P (resource.noteCall call) := by
  unfold noteCall
  refine List.foldlRecOn _ _ hstart ?_
  intro between hbetween place _
  cases hnoted : between.noteParam? call.verb (.member place) false with
  | none => exact hbetween
  | some result => exact hnote _ _ _ _ _ _ hbetween hnoted

/-- What holds without parameters and is kept by entering one holds of those of all calls. -/
theorem initParams_induction {P : Resource → Prop}
    (hnote : ∀ between later verb params (ref : ParamRef params) info, P between →
      between.noteParam? verb ref false = some (later, info) → P later)
    (hstart : P { resource with params := {} }) : P resource.initParams := by
  unfold initParams
  dsimp only
  split
  · exact hstart
  · exact List.foldlRecOn _ _ hstart fun between hbetween call _ =>
      noteCall_induction hnote hbetween call

/-- A set-up enters the parameters of all calls anew, or none if there are no tokens. -/
theorem paramsEntered_initParams (resource : Resource) :
    ParamsEntered { resource with params := {} } resource.initParams :=
  initParams_induction (fun _ _ _ _ _ _ entered hnoted => .note entered hnoted) .none

/-- The parameters of the calls are not additional. -/
theorem isAdditional_initParams (resource : Resource) :
    ∀ entry ∈ resource.initParams.params.entries, entry.2.isAdditional = false := by
  refine initParams_induction
    (P := fun r => ∀ entry ∈ r.params.entries, entry.2.isAdditional = false) ?_ nofun
  intro between later verb params ref info hbetween hnoted
  obtain ⟨level, -, hinfo, rfl⟩ := noteParam?_eq_some hnoted
  refine OrderedMap.forall_mem_insert hbetween ?_
  have hknown : (between.knownParam ref.param level).isAdditional = false := by
    unfold knownParam
    cases hget : between.params.get? (between.newParamInfo ref.param level).key with
    | none => rfl
    | some old => exact hbetween _ (OrderedMap.mem_entries_of_get? hget)
  rw [hinfo]
  exact hknown

theorem paramsEntered_noteAdditionalParam
    (hnoted : resource.noteAdditionalParam verb ref = .ok (later, info)) :
    ParamsEntered resource later := by
  unfold noteAdditionalParam at hnoted
  cases hparam : resource.noteParam? verb ref true with
  | none => simp [hparam] at hnoted
  | some result =>
      rw [hparam] at hnoted
      cases hnoted
      exact .note .none hparam

/-! ## Additions of several parameters -/

/-- Where the additions of a resource stand: what was known is followed by what was added. -/
structure Adding (resource : Resource) (state : Resource × OrderedMap String ParamInfo) : Prop where
  entered : ParamsEntered resource state.1
  entries_eq : state.1.params.entries = resource.params.entries ++ state.2.entries
  key_eq : ∀ entry ∈ state.2.entries, entry.2.key = entry.1

/-- The key of a parameter depends on the path, not on what is known. -/
theorem paramKey?_of_level (hlevel : resource.paramLevel? ref = some level) :
    resource.paramKey? ref = some (resource.newParamInfo ref.param level).key := by
  unfold paramKey? paramSegment?
  rw [hlevel]
  rfl

/-- Another parameter that was unknown is added. -/
theorem Adding.note {added : OrderedMap String ParamInfo}
    (adding : Adding resource (between, added))
    (hunknown : ∀ key, resource.paramKey? ref = some key → key ∉ resource.params.keys)
    (hnoted : between.noteParam? verb ref true = some (later, info)) :
    Adding resource (later, added.insert info.key info) := by
  obtain ⟨level, hlevel, hinfo, hlater⟩ := noteParam?_eq_some hnoted
  obtain ⟨known, hbetween⟩ := adding.entered.eq_withParams
  have hnew : (between.newParamInfo ref.param level).key ∉ resource.params.keys := by
    refine hunknown _ ?_
    have hkey := paramKey?_of_level hlevel
    dsimp only at hbetween
    rw [hbetween] at hkey ⊢
    exact hkey
  have hparams : between.params = ⟨resource.params.entries ++ added.entries⟩ :=
    congrArg OrderedMap.mk adding.entries_eq
  -- what is known about it by now was added itself, so it has the key that it stands under
  have hkey : info.key = (between.newParamInfo ref.param level).key := by
    have hknown : info.key = (between.knownParam ref.param level).key := by
      rw [hinfo]
      rfl
    rw [hknown]
    unfold knownParam
    rw [hparams, OrderedMap.get?_append_of_new hnew]
    cases hget : added.get? (between.newParamInfo ref.param level).key with
    | none => rfl
    | some old => exact adding.key_eq _ (OrderedMap.mem_entries_of_get? hget)
  constructor
  case entered => exact .note adding.entered hnoted
  case entries_eq =>
    rw [hlater]
    dsimp only
    rw [hparams, OrderedMap.insert_append_of_new hnew, hkey]
  case key_eq => exact OrderedMap.forall_mem_insert adding.key_eq rfl

theorem adding_noteAdditional {call : Call} {added : Option (OrderedMap String ParamInfo)}
    (hnoted : resource.noteAdditional call = .ok (later, added)) :
    Adding resource (later, added.getD {}) := by
  have start : Adding resource (resource, {}) := ⟨.none, (List.append_nil _).symm, nofun⟩
  unfold noteAdditional at hnoted
  cases hown : resource.ownCall call with
  | error error => simp [hown, Except.map] at hnoted
  | ok own =>
      simp only [hown, Except.map] at hnoted
      split at hnoted
      case isTrue =>
        cases hnoted
        exact start
      case isFalse =>
        cases hnoted
        refine List.foldlRecOn _ _ start ?_
        rintro ⟨between, added⟩ adding place hplace
        dsimp only
        cases hparam : between.noteParam? call.verb (.member place) true with
        | none => exact adding
        | some result =>
            obtain ⟨noted, info⟩ := result
            refine adding.note ?_ hparam
            intro key hkey
            have hunknown := (List.mem_filter.mp hplace).2
            rw [hkey] at hunknown
            rw [← OrderedMap.contains_iff]
            simpa using hunknown

theorem paramsEntered_noteAdditional {call : Call} {added : Option (OrderedMap String ParamInfo)}
    (hnoted : resource.noteAdditional call = .ok (later, added)) :
    ParamsEntered resource later :=
  (adding_noteAdditional hnoted).entered

/-- What is told to be new is what was added, behind all that was known. -/
theorem entries_noteAdditional {call : Call} {added : Option (OrderedMap String ParamInfo)}
    (hnoted : resource.noteAdditional call = .ok (later, added)) :
    later.params.entries = resource.params.entries ++ (added.getD {}).entries :=
  (adding_noteAdditional hnoted).entries_eq

/-! ## What entering parameters does not read -/

/-- A resource with the ancestors, templates, chains and tables of another one. -/
def withRest (resource rest : Resource) : Resource :=
  { resource with
    ancestors := rest.ancestors
    templates := rest.templates
    creations := rest.creations
    tables := rest.tables }

theorem noteParam?_withRest (resource rest : Resource) (verb : Verb) (ref : ParamRef params)
    (additional : Bool) :
    (resource.withRest rest).noteParam? verb ref additional =
      (resource.noteParam? verb ref additional).map (Prod.map (·.withRest rest) id) := by
  unfold noteParam?
  rw [Option.map_map]
  rfl

theorem noteCall_withRest (resource rest : Resource) (call : Call) :
    (resource.withRest rest).noteCall call = (resource.noteCall call).withRest rest := by
  unfold noteCall
  refine List.foldl_hom (fun between : Resource => between.withRest rest) ?_
  intro between place
  rw [noteParam?_withRest]
  cases between.noteParam? call.verb (.member place) false <;> rfl

theorem initParams_withRest (resource rest : Resource) :
    (resource.withRest rest).initParams = resource.initParams.withRest rest := by
  have htokens : (resource.withRest rest).tokens = resource.tokens := rfl
  unfold initParams
  rw [htokens]
  dsimp only
  split
  · rfl
  · change List.foldl noteCall (withRest { resource with params := {} } rest) resource.calls = _
    exact List.foldl_hom (fun between : Resource => between.withRest rest)
      fun between call => noteCall_withRest between rest call

/-- The parameters of the calls depend on the path, the calls, the mode and the inventory. -/
theorem params_initParams_congr (resource other : Resource) (hpath : resource.path = other.path)
    (hcalls : resource.calls = other.calls) (hmode : resource.mode = other.mode)
    (hinventory : resource.inventory = other.inventory) :
    resource.initParams.params = other.initParams.params := by
  have hsame : resource.withRest other = { other with params := resource.params } := by
    unfold withRest
    rw [hpath, hcalls, hmode, hinventory]
  calc resource.initParams.params
      = (resource.withRest other).initParams.params := by rw [initParams_withRest]; rfl
    _ = other.initParams.params := by rw [hsame]; rfl

end Resource

end RestCatalog
