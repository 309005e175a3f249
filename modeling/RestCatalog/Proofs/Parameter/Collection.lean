import RestCatalog.Proofs.Parameter.History

/-!
# What is known about the parameters of the calls

A set-up enters the parameters of all calls, one after the other, each under its key.
`Resource.keyedParams` lists them in this order, before any two of them meet under one key, and
`ParamsCollected` says what is known about them in the end: one piece of knowledge for each
key, in the order in which the keys appear, about the first parameter with the key, with the
verbs of all calls that have one.

* A piece of knowledge that is made of some parameters (`ParamInfo.Merges`) is made of one more
  when that one is met (`ParamInfo.Merges.met`).
* Entering a parameter keeps what is collected up to then (`Collected.note`), hence so do
  whole calls (`Collected.noteCall`) and the set-up (`collected_initParams`).
* The verbs of a piece of knowledge tell which calls have the parameter
  (`ParamInfo.Merges.mem_verbs_iff`).  So what a template has to bind for its first verb is what
  is known about the parameters of the calls with that verb (`filter_verbs_eq_paramsOf`).
-/

namespace RestCatalog

/-- Adding to first appearances is keeping first appearances. -/
theorem addNew_eraseDups {α : Type} [DecidableEq α] (items : List α) (item : α) :
    addNew items.eraseDups item = (items ++ [item]).eraseDups := by
  unfold addNew
  rw [eraseDups_concat]
  simp only [List.mem_eraseDups]

/-- A parameter of a call with a verb, under its key. -/
structure KeyedParam where
  verb : Verb
  param : Param
  key : String
deriving DecidableEq, Repr

namespace Resource

/-- The parameters of a call under their keys, in the order in which the call lists them. -/
def keyedParamsOf (resource : Resource) (call : Call) : List KeyedParam :=
  (List.finRange call.params.length).filterMap fun place =>
    (resource.paramKey? (ParamRef.member place)).map fun key =>
      { verb := call.verb, param := call.params.get place, key }

/-- The parameters of all calls under their keys, call by call. -/
def keyedParams (resource : Resource) : List KeyedParam :=
  resource.calls.flatMap resource.keyedParamsOf

/-- What is known about the parameters of the calls with a verb. -/
def paramsOf (resource : Resource) (verb : Verb) : List ParamInfo :=
  resource.params.values.filter fun info =>
    resource.keyedParams.any fun keyed => keyed.verb = verb && keyed.key = info.key

end Resource

namespace ParamInfo

variable {info : ParamInfo} {members : List KeyedParam}

/-- What is known about some parameters with one key: the first of them, and the verbs of all. -/
structure Merges (info : ParamInfo) (members : List KeyedParam) : Prop where
  first : ∃ first, members.head? = some first ∧ info.param = first.param ∧ info.key = first.key
  name_eq : info.name = info.param.name
  verbs_eq : info.verbs = (members.map KeyedParam.verb).eraseDups
  isAdditional_eq : info.isAdditional = false

theorem Merges.met (merges : info.Merges members) (keyed : KeyedParam) :
    (info.met keyed.verb false).Merges (members ++ [keyed]) := by
  obtain ⟨first, hfirst, hparam, hkey⟩ := merges.first
  constructor
  case first =>
    refine ⟨first, ?_, hparam, hkey⟩
    rw [List.head?_append, hfirst, Option.some_or]
  case name_eq => exact merges.name_eq
  case verbs_eq =>
    unfold ParamInfo.met
    rw [List.map_append, List.map_singleton, ← addNew_eraseDups, ← merges.verbs_eq]
  case isAdditional_eq => exact merges.isAdditional_eq

theorem merges_newParamInfo (resource : Resource) (verb : Verb) (param : Param) (level : Nat) :
    ((resource.newParamInfo param level).met verb false).Merges
      [{ verb, param, key := (resource.newParamInfo param level).key }] := by
  constructor
  case first => exact ⟨_, rfl, rfl, rfl⟩
  case name_eq => rfl
  case verbs_eq => rfl
  case isAdditional_eq => rfl

/-- The verbs are those of the parameters with the key. -/
theorem Merges.mem_verbs_iff (merges : info.Merges members) {verb : Verb} :
    verb ∈ info.verbs ↔ ∃ keyed ∈ members, keyed.verb = verb := by
  rw [merges.verbs_eq, List.mem_eraseDups, List.mem_map]

end ParamInfo

namespace Resource

variable {start between later : Resource} {seen : List KeyedParam} {params : List Param}
  {ref : ParamRef params} {verb : Verb} {info : ParamInfo} {key : String}

/-! ## Entering one parameter -/

/-- Where the collection of parameters stands after some of them. -/
structure Collected (start : Resource) (seen : List KeyedParam) (later : Resource) : Prop where
  entered : ParamsEntered start later
  keys_eq : later.params.keys = (seen.map KeyedParam.key).eraseDups
  merges : ∀ key info, later.params.get? key = some info →
    info.Merges (seen.filter fun keyed => keyed.key = key)

namespace Collected

/-- What is known about a parameter once it is met merges it with those before it that have its
key. -/
theorem merges_met (collected : Collected start seen between) (verb : Verb) (param : Param)
    {level : Nat} (hkey : (between.newParamInfo param level).key = key) :
    ((between.knownParam param level).met verb false).Merges
      ((seen.filter fun keyed => keyed.key = key) ++ [⟨verb, param, key⟩]) := by
  unfold knownParam
  rw [hkey]
  cases hget : between.params.get? key with
  | some old => exact (collected.merges key old hget).met ⟨verb, param, key⟩
  | none =>
      have hnone : (seen.filter fun keyed => keyed.key = key) = [] := by
        rw [OrderedMap.get?_eq_none_iff, collected.keys_eq, List.mem_eraseDups,
          List.mem_map] at hget
        rw [List.filter_eq_nil_iff]
        exact fun keyed hkeyed hsame => hget ⟨keyed, hkeyed, of_decide_eq_true hsame⟩
      rw [hnone, ← hkey]
      exact ParamInfo.merges_newParamInfo between verb param level

theorem note (collected : Collected start seen between)
    (hnoted : between.noteParam? verb ref false = some (later, info))
    (hkey : start.paramKey? ref = some key) :
    Collected start (seen ++ [{ verb, param := ref.param, key }]) later := by
  obtain ⟨level, hlevel, hinfo, hlater⟩ := noteParam?_eq_some hnoted
  -- the key is read off the path, which is that of the start throughout
  have hnew : (between.newParamInfo ref.param level).key = key := by
    have hbetween := paramKey?_of_level hlevel
    obtain ⟨known, rfl⟩ := collected.entered.eq_withParams
    exact Option.some.inj (hbetween.symm.trans hkey)
  have hparams : later.params = between.params.insert key info := by
    rw [hlater, hnew]
  constructor
  case entered => exact .note collected.entered hnoted
  case keys_eq =>
    rw [hparams, OrderedMap.keys_insert, collected.keys_eq, List.map_append, List.map_singleton,
      eraseDups_concat]
    simp only [List.mem_eraseDups]
  case merges =>
    intro other found hfound
    rw [hparams, OrderedMap.get?_insert] at hfound
    rw [List.filter_append]
    split at hfound
    case isTrue hsame =>
      obtain rfl := hsame
      obtain rfl := Option.some.inj hfound
      rw [List.filter_cons_of_pos (by simp), List.filter_nil, hinfo]
      exact collected.merges_met verb ref.param hnew
    case isFalse hother =>
      have hne : ¬ key = other := fun hsame => hother hsame.symm
      rw [List.filter_cons_of_neg (by simpa using hne), List.filter_nil, List.append_nil]
      exact collected.merges other found hfound

/-! ## Entering all of them -/

theorem noteCall (collected : Collected start seen between) (call : Call) :
    Collected start (seen ++ start.keyedParamsOf call) (between.noteCall call) := by
  unfold keyedParamsOf Resource.noteCall
  generalize List.finRange call.params.length = places
  induction places generalizing seen between with
  | nil =>
      rw [List.filterMap_nil, List.append_nil]
      exact collected
  | cons place places ih =>
      obtain ⟨level, hlevel⟩ := start.exists_paramLevel?_member place
      have hkey := paramKey?_of_level hlevel
      obtain ⟨later, info, hnoted⟩ : ∃ later info,
          between.noteParam? call.verb (.member place) false = some (later, info) := by
        obtain ⟨level, hlevel⟩ := between.exists_paramLevel?_member place
        unfold noteParam?
        rw [hlevel]
        exact ⟨_, _, rfl⟩
      rw [List.foldl_cons, hnoted, List.filterMap_cons, hkey, Option.map_some]
      have hrest := ih (collected.note hnoted hkey)
      rwa [List.append_assoc] at hrest

theorem noteCalls (collected : Collected start seen between) (calls : List Call) :
    Collected start (seen ++ calls.flatMap start.keyedParamsOf)
      (calls.foldl Resource.noteCall between) := by
  induction calls generalizing seen between with
  | nil =>
      rw [List.flatMap_nil, List.append_nil]
      exact collected
  | cons call calls ih =>
      rw [List.foldl_cons, List.flatMap_cons, ← List.append_assoc]
      exact ih (collected.noteCall call)

end Collected

/-- A set-up of the parameters collects those of all calls. -/
theorem collected_initParams (resource : Resource) (hsome : resource.tokens.isEmpty = false) :
    Collected { resource with params := {} } resource.keyedParams resource.initParams := by
  have collected : Collected { resource with params := {} } [] { resource with params := {} } :=
    ⟨.none, rfl, nofun⟩
  unfold initParams
  dsimp only
  rw [if_neg (by simp [hsome])]
  exact collected.noteCalls resource.calls

/-! ## What is known in the end -/

/-- All that is known about the parameters of a resource comes from its calls. -/
structure ParamsCollected (resource : Resource) : Prop where
  /-- No parameter of a call goes without a key. -/
  map_keyedParams : resource.keyedParams.map (fun keyed => (keyed.verb, keyed.param)) =
    resource.calls.flatMap fun call => call.params.map fun param => (call.verb, param)
  keys_eq : resource.params.keys = (resource.keyedParams.map KeyedParam.key).eraseDups
  /-- Each piece of knowledge is about the first of the parameters with its key, and has the verbs
  of all of them. -/
  merges : ∀ entry ∈ resource.params.entries, entry.2.key = entry.1 ∧
    entry.2.Merges (resource.keyedParams.filter fun keyed => keyed.key = entry.1)
  /-- A template that reads or deletes first has to bind the parameters of the calls with that
  verb. -/
  missing_of_get : ∀ text verbs lead, Template.parse text = .ok verbs → verbs.head? = some lead →
    lead = .get ∨ lead = .delete → resource.missingParams text = .ok (resource.paramsOf lead)
  /-- One that changes something first has to bind those of them in the path, or with an
  identifier for a name. -/
  missing_of_put : ∀ text verbs lead, Template.parse text = .ok verbs → verbs.head? = some lead →
    lead = .put ∨ lead = .patch → resource.missingParams text =
      .ok ((resource.paramsOf lead).filter fun info =>
        info.param.isPath || Text.occursIn ['i', 'd'] (Text.lower info.param.name).toList)

theorem map_keyedParams (resource : Resource) :
    resource.keyedParams.map (fun keyed => (keyed.verb, keyed.param)) =
      resource.calls.flatMap fun call => call.params.map fun param => (call.verb, param) := by
  have hcall : ∀ call : Call,
      (resource.keyedParamsOf call).map (fun keyed => (keyed.verb, keyed.param)) =
        call.params.map fun param => (call.verb, param) := by
    intro call
    have hplaces : (fun place : Fin call.params.length =>
        ((resource.paramKey? (.member place)).map fun key =>
          ({ verb := call.verb, param := call.params.get place, key } : KeyedParam)).map
            fun keyed => (keyed.verb, keyed.param)) =
        fun place => some (call.verb, call.params.get place) := by
      funext place
      obtain ⟨level, hlevel⟩ := resource.exists_paramLevel?_member place
      rw [paramKey?_of_level hlevel]
      rfl
    unfold keyedParamsOf
    rw [List.map_filterMap, hplaces, List.filterMap_eq_map']
    conv_rhs => rw [← List.map_get_finRange call.params, List.map_map]
    rfl
  unfold keyedParams
  rw [List.map_flatMap]
  exact List.flatMap_congr fun call _ => hcall call

section

variable {resource : Resource}
  (hmerges : ∀ entry ∈ resource.params.entries, entry.2.key = entry.1 ∧
    entry.2.Merges (resource.keyedParams.filter fun keyed => keyed.key = entry.1))
include hmerges

/-- What is known to be taken by a verb is what is known about the parameters of its calls. -/
theorem filter_verbs_eq_paramsOf (verb : Verb) :
    (resource.params.values.filter fun info => info.verbs.contains verb) =
      resource.paramsOf verb := by
  refine List.filter_congr fun info hinfo => ?_
  obtain ⟨entry, hentry, rfl⟩ := List.mem_map.mp hinfo
  obtain ⟨hkey, merges⟩ := hmerges entry hentry
  rw [Bool.eq_iff_iff, List.contains_iff_mem, merges.mem_verbs_iff, List.any_eq_true, hkey]
  simp only [List.mem_filter, Bool.and_eq_true, decide_eq_true_eq]
  constructor
  · rintro ⟨keyed, ⟨hmem, hsame⟩, hverb⟩
    exact ⟨keyed, hmem, hverb, hsame⟩
  · rintro ⟨keyed, hmem, hverb, hsame⟩
    exact ⟨keyed, ⟨hmem, hsame⟩, hverb⟩

theorem filter_ids_eq_paramsOf (verb : Verb) :
    (resource.params.values.filter fun info =>
        info.verbs.contains verb && (info.isPath || info.refersToId)) =
      (resource.paramsOf verb).filter fun info =>
        info.param.isPath || Text.occursIn ['i', 'd'] (Text.lower info.param.name).toList := by
  rw [← filter_verbs_eq_paramsOf hmerges, List.filter_filter]
  refine List.filter_congr fun info hinfo => ?_
  obtain ⟨entry, hentry, rfl⟩ := List.mem_map.mp hinfo
  unfold ParamInfo.isPath ParamInfo.refersToId
  rw [(hmerges entry hentry).2.name_eq, Bool.and_comm]

end

theorem paramsCollected_initParams (resource : Resource)
    (hsome : resource.tokens.isEmpty = false) : ParamsCollected resource.initParams := by
  have collected := collected_initParams resource hsome
  obtain ⟨known, hready⟩ := collected.entered.eq_withParams
  have hkeyed : resource.initParams.keyedParams = resource.keyedParams := by
    rw [hready]
    rfl
  rw [← hkeyed] at collected
  have hmerges : ∀ entry ∈ resource.initParams.params.entries, entry.2.key = entry.1 ∧
      entry.2.Merges (resource.initParams.keyedParams.filter fun keyed => keyed.key = entry.1) := by
    intro entry hentry
    have hnodup : resource.initParams.params.keys.Nodup := by
      rw [collected.keys_eq]
      exact nodup_eraseDups _
    have merges := collected.merges entry.1 entry.2 ((OrderedMap.get?_eq_some_iff hnodup).mpr hentry)
    obtain ⟨first, hfirst, -, hkey⟩ := merges.first
    have hmem := (List.mem_filter.mp (List.mem_of_mem_head? hfirst)).2
    exact ⟨hkey.trans (of_decide_eq_true hmem), merges⟩
  constructor
  case map_keyedParams => exact map_keyedParams _
  case keys_eq => exact collected.keys_eq
  case merges => exact hmerges
  case missing_of_get =>
    intro text verbs lead hparse hhead hlead
    unfold missingParams
    rw [hparse]
    dsimp only
    rw [hhead, Option.map_some, Option.getD_some, ← filter_verbs_eq_paramsOf hmerges]
    rcases hlead with rfl | rfl <;> rfl
  case missing_of_put =>
    intro text verbs lead hparse hhead hlead
    unfold missingParams
    rw [hparse]
    dsimp only
    rw [hhead, Option.map_some, Option.getD_some, ← filter_ids_eq_paramsOf hmerges]
    rcases hlead with rfl | rfl <;> rfl

end Resource

namespace ResourceGroup

variable {group : ResourceGroup} {resource ready : Resource}

/-- After a set-up that is not refused, all that is known about the parameters of a resource with
tokens comes from its calls. -/
theorem paramsCollected {withRows : Bool} (hinit : group.init resource withRows = (ready, none))
    (hsome : ready.tokens.isEmpty = false) : ready.ParamsCollected := by
  obtain ⟨start, rfl⟩ := exists_initParams_of_init hinit (Resource.usesTokens_of_tokens hsome)
  obtain ⟨known, hready⟩ := start.paramsEntered_initParams.eq_withParams
  refine Resource.paramsCollected_initParams start ?_
  rw [hready] at hsome
  exact hsome

/-- An item that is read, changed and deleted. -/
def storedItem : Resource :=
  { path := Path.ofText "/items/{itemId}"
    calls :=
      [{ verb := .get, path := "/items/{itemId}"
         params := [{ name := "itemId", location := "path" }, { name := "page", location := "query" }] },
        { verb := .put, path := "/items/{itemId}"
          params := [{ name := "item", location := "body" }, { name := "itemId", location := "path" }] },
        { verb := .delete, path := "/items/{itemId}"
          params := [{ name := "itemId", location := "path", type := "integer" }] }] }

/-- Its number is known as the first call has it, and with the verbs of all three. -/
theorem paramsCollected_storedItem :
    ∃ ready, init [] storedItem false = (ready, none) ∧ ready.tokens.isEmpty = false ∧
      ready.ParamsCollected ∧
      ready.params.values.map (fun info => (info.name, info.param.type, info.verbs)) =
        [("itemId", "string", [.get, .put, .delete]), ("page", "string", [.get]),
          ("item", "string", [.put])] := by
  have haccepted : (init [] storedItem false).2 = none := by decide +kernel
  have hinit : init [] storedItem false = ((init [] storedItem false).1, none) :=
    Prod.ext rfl haccepted
  have hsome : (init [] storedItem false).1.tokens.isEmpty = false := by decide +kernel
  exact ⟨_, hinit, hsome, paramsCollected hinit hsome, by decide +kernel⟩

end ResourceGroup

end RestCatalog
