import RestCatalog.Proofs.Catalog.Templates
import RestCatalog.Proofs.Parameter.History
import RestCatalog.Proofs.Path.TokenKey

/-!
# Which path parameters are missing

The value of a path parameter can come from an own POST only if it belongs to the last element;
in front of it, it has to be bound to what exists already.  `MissingRecognised` says so of what
is known about a parameter.  The position of the parameter is looked up among the tokens, so it
is not found if its variable is embedded in a literal or its token has been displaced: then the
parameter counts as one at the end of the path, wherever it is (`Path.Overlooks`).

* With distinct names a variable has one place (`Path.place_unique`), and the level of its
  parameter is that place, or the end if it is overlooked (`Resource.level_lt_iff`).
* `ResourceGroup.missingRecognised_iff` concludes that the missing parameters are recognised
  exactly where no variable is overlooked next to an own POST.
-/

namespace RestCatalog

open TokenMap

namespace Path

variable {path : Path} {name other : String} {element element' : PathElement} {place place' : Nat}

/-- The variables of the last element. -/
def lastPlaceholders (path : Path) : List String :=
  (path.elements.getLast?.map PathElement.placeholders).getD []

/-- A variable in front of the last element that is not found by its name: it is embedded in a
literal, or the token of its element is displaced. -/
def Overlooks (path : Path) (name : String) : Prop :=
  ∃ place element, path.elements[place]? = some element ∧ place + 1 < path.levels ∧
    name ∈ element.placeholders ∧
    (element.isParameter = true → ∃ level, Displaces path.names level place)

/-- A variable stands on some place, in front of the last element or on it. -/
theorem exists_place (hname : name ∈ path.variableNames) :
    ∃ (place : Nat) (element : PathElement), path.elements[place]? = some element ∧
      name ∈ element.placeholders := by
  obtain ⟨element, helement, hmem⟩ := List.mem_flatMap.mp hname
  obtain ⟨place, hplace⟩ := List.mem_iff_getElem?.mp helement
  exact ⟨place, element, hplace, hmem⟩

/-- Where no two variables have the same name, letter case apart, a variable has one place. -/
theorem place_unique (hdistinct : (path.variableNames.map Text.lower).Nodup)
    (helement : path.elements[place]? = some element)
    (helement' : path.elements[place']? = some element') (hname : name ∈ element.placeholders)
    (hother : other ∈ element'.placeholders) (hsame : Text.lower name = Text.lower other) :
    place = place' := by
  unfold variableNames at hdistinct
  rw [List.map_flatMap, List.nodup_flatMap, List.pairwise_iff_getElem] at hdistinct
  obtain ⟨hlt, rfl⟩ := List.getElem?_eq_some_iff.mp helement
  obtain ⟨hlt', rfl⟩ := List.getElem?_eq_some_iff.mp helement'
  have hlower := List.mem_map_of_mem (f := Text.lower) hname
  have hlower' := List.mem_map_of_mem (f := Text.lower) hother
  rw [hsame] at hlower
  rcases Nat.lt_trichotomy place place' with hbefore | hequal | hafter
  · exact absurd hlower' (hdistinct.2 place place' hlt hlt' hbefore hlower)
  · exact hequal
  · exact absurd hlower (hdistinct.2 place' place hlt' hlt hafter hlower')

/-- With distinct names, a variable is one of the last element if and only if its place is the
last one. -/
theorem mem_lastPlaceholders_iff (hdistinct : (path.variableNames.map Text.lower).Nodup)
    (helement : path.elements[place]? = some element) (hname : name ∈ element.placeholders) :
    name ∈ path.lastPlaceholders ↔ place + 1 = path.levels := by
  have hlast : path.elements.getLast? = path.elements[path.levels - 1]? :=
    List.getLast?_eq_getElem?
  have hlt : place < path.levels := (List.getElem?_eq_some_iff.mp helement).1
  unfold lastPlaceholders
  constructor
  · intro hmem
    cases hfound : path.elements[path.levels - 1]? with
    | none => simp [hlast, hfound] at hmem
    | some last =>
        rw [hlast, hfound] at hmem
        have hplace := place_unique hdistinct helement hfound hname hmem rfl
        omega
  · intro hplace
    have hfound : path.levels - 1 = place := by omega
    rw [hlast, hfound, helement]
    exact hname

/-- With distinct names, a variable is overlooked if its place is in front of the last one and
is not found. -/
theorem overlooks_iff (hdistinct : (path.variableNames.map Text.lower).Nodup)
    (helement : path.elements[place]? = some element) (hname : name ∈ element.placeholders) :
    path.Overlooks name ↔ place + 1 < path.levels ∧
      (element.isParameter = true → ∃ level, Displaces path.names level place) := by
  constructor
  · rintro ⟨place', element', helement', hbefore, hname', hlost⟩
    obtain rfl := place_unique hdistinct helement helement' hname hname' rfl
    obtain rfl := Option.some.inj (helement.symm.trans helement')
    exact ⟨hbefore, hlost⟩
  · rintro ⟨hbefore, hlost⟩
    exact ⟨place, element, helement, hbefore, hname, hlost⟩

theorem Overlooks.mem_variableNames (overlooks : path.Overlooks name) :
    name ∈ path.variableNames := by
  obtain ⟨place, element, helement, -, hname, -⟩ := overlooks
  exact List.mem_flatMap.mpr ⟨element, List.mem_of_getElem? helement, hname⟩

/-- An overlooked variable is none of the last element. -/
theorem Overlooks.notMem_lastPlaceholders (overlooks : path.Overlooks name)
    (hdistinct : (path.variableNames.map Text.lower).Nodup) : name ∉ path.lastPlaceholders := by
  obtain ⟨place, element, helement, hbefore, hname, -⟩ := overlooks
  rw [mem_lastPlaceholders_iff hdistinct helement hname]
  exact Nat.ne_of_lt hbefore

/-- Where variables are whole elements and no name holds a `#`, none is overlooked. -/
theorem not_overlooks_of_plain
    (hwhole : ∀ element ∈ path.elements, element.isParameter = false → element.placeholders = [])
    (hplain : ∀ name ∈ path.names, '#' ∉ name.toList) : ¬ path.Overlooks name := by
  rintro ⟨place, element, helement, -, hname, hlost⟩
  cases hparameter : element.isParameter with
  | true =>
      obtain ⟨level, hdisplaces⟩ := hlost hparameter
      exact not_displaces_of_plain hplain hdisplaces
  | false =>
      rw [hwhole element (List.mem_of_getElem? helement) hparameter] at hname
      cases hname

/-! ## The level of a variable -/

/-- A parameter token with the name of a variable is that of its element, and is kept. -/
theorem of_mem_parametersNamed (hliteral : path.literals ≠ []) {splitting : Bool}
    (hdistinct : (path.variableNames.map Text.lower).Nodup)
    (helement : path.elements[place]? = some element) (hname : name ∈ element.placeholders)
    {token : PathToken} (htoken : token ∈ (ofPath path splitting).parametersNamed name) :
    token.level = place ∧ element.isParameter = true ∧
      ∀ later, ¬ Displaces path.names later place := by
  obtain ⟨hmem, hnamed⟩ := List.mem_filter.mp htoken
  simp only [Bool.and_eq_true, decide_eq_true_eq] at hnamed
  obtain ⟨hparameter, hkey⟩ := hnamed
  obtain ⟨hmade, hkept⟩ := (mem_values_ofPath_iff hliteral).mp hmem
  obtain ⟨i, hi⟩ := List.mem_iff_getElem?.mp hmade
  have describes := PathToken.describes_of_getElem? hi
  obtain ⟨own, hown, htext, hsame⟩ := describes.element
  have hplaceholders : token.text ∈ own.placeholders := by
    rw [htext]
    cases own with
    | parameter name => exact List.mem_singleton_self _
    | literal text => cases hsame.symm.trans hparameter
  have hplace := place_unique hdistinct hown helement hplaceholders hname hkey
  obtain rfl := hplace
  obtain rfl := Option.some.inj (hown.symm.trans helement)
  rw [describes.level_eq] at hkept
  exact ⟨describes.level_eq, hsame.symm.trans hparameter, hkept⟩

/-- The token of a parameter that is kept is found by the name. -/
theorem exists_parametersNamed (hliteral : path.literals ≠ []) (splitting : Bool)
    (helement : path.elements[place]? = some element) (hname : name ∈ element.placeholders)
    (hparameter : element.isParameter = true)
    (hkept : ∀ later, ¬ Displaces path.names later place) :
    (ofPath path splitting).parametersNamed name ≠ [] := by
  have hlt : place < (PathToken.ofElements splitting 0 none [] path.elements).length := by
    rw [← List.length_map PathToken.text, PathToken.map_text_ofElements, List.length_map]
    exact (List.getElem?_eq_some_iff.mp helement).1
  have htoken := List.getElem?_eq_getElem hlt
  have describes := PathToken.describes_of_getElem? htoken
  obtain ⟨own, hown, htext, hsame⟩ := describes.element
  obtain rfl := Option.some.inj (helement.symm.trans hown)
  refine List.ne_nil_of_mem (List.mem_filter.mpr ⟨(mem_values_ofPath_iff hliteral).mpr
    ⟨List.mem_of_getElem? htoken, ?_⟩, ?_⟩)
  · rwa [describes.level_eq]
  · cases element with
    | parameter own =>
        obtain rfl := List.mem_singleton.mp hname
        unfold PathToken.key
        rw [hsame, htext]
        simp [PathElement.isParameter, PathElement.name]
    | literal text => cases hparameter

end Path

/-! ## One parameter -/

namespace Resource

variable {resource : Resource} {params : List Param} {ref : ParamRef params} {info : ParamInfo}
  {level : Nat}

/-- What is known about a parameter says rightly whether it is missing: a path parameter is,
unless there is an own POST and its variable is one of the last element; another one never is. -/
structure MissingRecognised (resource : Resource) (info : ParamInfo) : Prop where
  path : info.isPath = true → info.param.name ∈ resource.path.variableNames →
    (info.missing = true ↔
      ¬ (resource.posts ≠ [] ∧ info.param.name ∈ resource.path.lastPlaceholders))
  other : info.isPath = false → info.missing = false

theorem ofPath_of_tokens (hsome : resource.tokens.isEmpty = false) :
    resource.tokens = ofPath resource.path resource.mode.splitsWords ∧
      resource.path.literals ≠ [] := by
  have htokens : resource.tokens = ofPath resource.path resource.mode.splitsWords := by
    unfold tokens
    rw [if_pos (usesTokens_of_tokens hsome)]
  refine ⟨htokens, fun hnone => ?_⟩
  rw [htokens, ofPath, hnone] at hsome
  cases hsome

/-- A new path parameter counts as one in front of the last element if and only if its variable
stands there and is not overlooked. -/
theorem level_lt_iff (hsome : resource.tokens.isEmpty = false)
    (hdistinct : (resource.path.variableNames.map Text.lower).Nodup)
    (hlevel : resource.paramLevel? ref = some level) (hpath : ref.param.isPath = true)
    (hname : ref.param.name ∈ resource.path.variableNames) :
    level + 1 < resource.path.levels ↔
      ref.param.name ∉ resource.path.lastPlaceholders ∧
        ¬ resource.path.Overlooks ref.param.name := by
  obtain ⟨htokens, hliteral⟩ := ofPath_of_tokens hsome
  obtain ⟨place, element, helement, hmem⟩ := Path.exists_place hname
  have hlt : place < resource.path.levels := (List.getElem?_eq_some_iff.mp helement).1
  rw [Path.mem_lastPlaceholders_iff hdistinct helement hmem,
    Path.overlooks_iff hdistinct helement hmem]
  rcases paramLevel?_eq_some hlevel with ⟨rfl, hnone⟩ | ⟨token, htoken, rfl⟩
  · -- it is not found, so either its place is the last one or it is overlooked
    have hlost : element.isParameter = true →
        ∃ level, Displaces resource.path.names level place := by
      intro hparameter
      by_contra hkept
      rw [htokens] at hnone
      exact Path.exists_parametersNamed hliteral _ helement hmem hparameter
        (not_exists.mp hkept) (hnone hpath)
    constructor
    · intro hbefore
      omega
    · rintro ⟨hnotLast, hfound⟩
      exact absurd ⟨by omega, hlost⟩ hfound
  · rw [htokens] at htoken
    obtain ⟨rfl, hparameter, hkept⟩ :=
      Path.of_mem_parametersNamed hliteral hdistinct helement hmem htoken
    constructor
    · intro hbefore
      refine ⟨by omega, fun hlost => ?_⟩
      obtain ⟨later, hdisplaced⟩ := hlost.2 hparameter
      exact hkept later hdisplaced
    · rintro ⟨hnotLast, -⟩
      omega

/-- A parameter that was not met before is recognised, unless its variable is overlooked next to
an own POST. -/
theorem missingRecognised_newParamInfo_iff
    (hposts : resource.inventory.post = decide (resource.posts ≠ []))
    (hsome : resource.tokens.isEmpty = false)
    (hdistinct : (resource.path.variableNames.map Text.lower).Nodup)
    (hlevel : resource.paramLevel? ref = some level) :
    resource.MissingRecognised (resource.newParamInfo ref.param level) ↔
      ¬ (resource.posts ≠ [] ∧ ref.param.isPath = true ∧
        resource.path.Overlooks ref.param.name) := by
  have hmissing : (resource.newParamInfo ref.param level).missing = true ↔
      ref.param.isPath = true ∧ (resource.posts = [] ∨ level + 1 < resource.path.levels) := by
    unfold newParamInfo
    simp only [hposts, Bool.and_eq_true, Bool.or_eq_true, Bool.not_eq_true', decide_eq_false_iff_not,
      decide_eq_true_eq, ne_eq, not_not, Nat.lt_sub_iff_add_lt]
  constructor
  · rintro recognised ⟨hown, hpath, overlooks⟩
    have hname := overlooks.mem_variableNames
    have hnotLast := overlooks.notMem_lastPlaceholders hdistinct
    have hcounted := (recognised.path hpath hname).mpr fun hlast => hnotLast hlast.2
    rcases (hmissing.mp hcounted).2 with hnone | hbefore
    · exact hown hnone
    · exact ((level_lt_iff hsome hdistinct hlevel hpath hname).mp hbefore).2 overlooks
  · intro hfound
    constructor
    case path =>
      intro hpath hname
      rw [hmissing]
      by_cases hown : resource.posts = []
      case pos => exact ⟨fun _ hlast => hlast.1 hown, fun _ => ⟨hpath, .inl hown⟩⟩
      case neg =>
        have hlevels := level_lt_iff hsome hdistinct hlevel hpath hname
        constructor
        · rintro ⟨-, hnone | hbefore⟩ hlast
          · exact hown hnone
          · exact (hlevels.mp hbefore).1 hlast.2
        · intro hlast
          refine ⟨hpath, .inr (hlevels.mpr ⟨fun hmem => hlast ⟨hown, hmem⟩, ?_⟩)⟩
          exact fun overlooks => hfound ⟨hown, hpath, overlooks⟩
    case other =>
      intro hpath
      refine Bool.eq_false_iff.mpr fun hcounted => ?_
      exact Bool.false_ne_true (hpath.symm.trans (hmissing.mp hcounted).1)

end Resource

namespace ResourceGroup

open Resource

variable {σ : Type} [ChoiceSource σ] {group : ResourceGroup} {resource ready : Resource}
  {operations : List (ResourceOperation σ)}

/-! ## All parameters -/

/-- What is true of new parameters, and stays true when they are met again, is true of all that is
known after a number of operations. -/
theorem forall_known_run {P : ParamInfo → Prop} (group : ResourceGroup)
    (hmet : ∀ info verb additional, P info → P (info.met verb additional))
    (hnew : ∀ (params : List Param) (ref : ParamRef params) level,
      resource.paramLevel? ref = some level → P (resource.newParamInfo ref.param level))
    (hstart : ∀ entry ∈ resource.params.entries, P entry.2)
    (hother : ∀ operation ∈ operations, ¬ operation.IsSetUp) :
    ∀ entry ∈ (group.run resource operations).params.entries, P entry.2 := by
  induction operations generalizing resource with
  | nil => exact hstart
  | cons operation rest ih =>
      obtain ⟨hfirst, hrest⟩ := List.forall_mem_cons.mp hother
      obtain ⟨noted, templates, creations, tables, entered, hstep⟩ := group.step_eq resource hfirst
      have hnoted := entered.forall_known hmet hnew hstart
      obtain ⟨params, rfl⟩ := entered.eq_withParams
      refine ih ?_ ?_ hrest
      · rw [hstep]
        exact hnew
      · rw [hstep]
        exact hnoted

/-- A set-up that is not refused knows whether the resource has a POST of its own. -/
theorem post_of_init {withRows : Bool} (hinit : group.init resource withRows = (ready, none))
    (hknown : resource.inventory.post = true → resource.posts ≠ []) :
    ready.inventory.post = decide (ready.posts ≠ []) := by
  have hhandled := handled_of_init (congrArg Prod.snd hinit)
  have hentered : (resource.inventory.entered resource.calls).post =
      decide (resource.posts ≠ []) := by
    have hown : (resource.calls.any fun call => call.verb = .post) =
        decide (resource.posts ≠ []) := by
      rw [Bool.eq_iff_iff]
      simp [Resource.posts]
    unfold VerbInventory.entered
    dsimp only
    rw [hown]
    cases hpost : resource.inventory.post with
    | false => rfl
    | true => rw [decide_eq_true (hknown hpost), Bool.true_or]
  unfold init initVerbs at hinit
  rw [enterVerbs_of_handled hhandled] at hinit
  dsimp only at hinit
  split at hinit
  case h_1 => cases hinit
  case h_2 later hverbs =>
    have hlater : later.inventory.post = decide (later.posts ≠ []) := by
      rw [← (Prod.mk.inj hverbs).1]
      exact hentered
    obtain ⟨rfl, -⟩ := Prod.mk.inj hinit
    split
    case isTrue =>
      obtain ⟨params, hparams⟩ := (group.initCreations later).initParams_eq
      rw [hparams]
      exact hlater
    case isFalse => exact hlater

/-- The missing parameters of a resource are recognised, if its path has tokens and does not name
two variables alike, exactly where no variable is overlooked next to an own POST. -/
theorem missingRecognised_iff {withRows : Bool}
    (hinit : group.init resource withRows = (ready, none))
    (hknown : resource.inventory.post = true → resource.posts ≠ [])
    (hsome : ready.tokens.isEmpty = false)
    (hdistinct : (ready.path.variableNames.map Text.lower).Nodup)
    (hother : ∀ operation ∈ operations, ¬ operation.IsSetUp) :
    ∀ entry ∈ (group.run ready operations).params.entries,
      (ready.MissingRecognised entry.2 ↔
        ¬ (ready.posts ≠ [] ∧ entry.2.isPath = true ∧
          ready.path.Overlooks entry.2.param.name)) := by
  have hposts := post_of_init hinit hknown
  have hnew : ∀ (params : List Param) (ref : ParamRef params) (level : Nat),
      ready.paramLevel? ref = some level →
        (ready.MissingRecognised (ready.newParamInfo ref.param level) ↔
          ¬ (ready.posts ≠ [] ∧ ref.param.isPath = true ∧
            ready.path.Overlooks ref.param.name)) :=
    fun params ref level => missingRecognised_newParamInfo_iff hposts hsome hdistinct
  -- another verb changes neither the parameter nor whether it is missing
  have hmet : ∀ (info : ParamInfo) (verb : Verb) (additional : Bool),
      (ready.MissingRecognised info ↔ ¬ (ready.posts ≠ [] ∧ info.isPath = true ∧
        ready.path.Overlooks info.param.name)) →
      (ready.MissingRecognised (info.met verb additional) ↔
        ¬ (ready.posts ≠ [] ∧ (info.met verb additional).isPath = true ∧
          ready.path.Overlooks (info.met verb additional).param.name)) := by
    intro info verb additional hrecognised
    refine Iff.trans ?_ hrecognised
    exact ⟨fun recognised => ⟨recognised.path, recognised.other⟩,
      fun recognised => ⟨recognised.path, recognised.other⟩⟩
  refine group.forall_known_run hmet hnew ?_ hother
  obtain ⟨start, hstart⟩ := exists_initParams_of_init hinit (usesTokens_of_tokens hsome)
  have entered := start.paramsEntered_initParams
  rw [← hstart] at entered
  obtain ⟨params, hready⟩ := entered.eq_withParams
  subst hready
  exact entered.forall_known hmet hnew nofun

/-- A POST that stores an item of a shop under its number. -/
def storeItem : Call :=
  { verb := .post
    path := "/shops/{shopId}/items/{itemId}"
    params := [{ name := "shopId", location := "path" }, { name := "itemId", location := "path" },
      { name := "item", location := "body" }] }

/-- One item of a shop, before the set-up. -/
def shopItem : Resource := { path := storeItem.restPath, calls := [storeItem] }

/-- The shop of an item is missing and its number is not, also after a page was asked for. -/
theorem missingRecognised_iff_shopItem :
    ∃ ready, init [] shopItem false = (ready, none) ∧ ready.tokens.isEmpty = false ∧
      (ready.path.variableNames.map Text.lower).Nodup ∧
      ready.params.values.map (·.missing) = [true, false, false] ∧
      ∀ entry ∈ (run [] ready [(.noteParam .get [] (.foreign { name := "page", location := "query" }) :
        ResourceOperation Script)]).params.entries, ready.MissingRecognised entry.2 := by
  have haccepted : (init [] shopItem false).2 = none := by decide +kernel
  have hinit : init [] shopItem false = ((init [] shopItem false).1, none) :=
    Prod.ext rfl haccepted
  have hsome : (init [] shopItem false).1.tokens.isEmpty = false := by decide +kernel
  have hdistinct : ((init [] shopItem false).1.path.variableNames.map Text.lower).Nodup := by
    decide +kernel
  have hknown : shopItem.inventory.post = true → shopItem.posts ≠ [] := nofun
  refine ⟨_, hinit, hsome, hdistinct, by decide +kernel, fun entry hentry => ?_⟩
  refine (missingRecognised_iff hinit hknown hsome hdistinct ?_ entry hentry).mpr ?_
  · simp [ResourceOperation.IsSetUp]
  · exact fun hlost => Path.not_overlooks_of_plain (by decide +kernel) (by decide +kernel) hlost.2.2

/-- A POST below a number that is embedded in a literal. -/
def storeNote : Call :=
  { verb := .post
    path := "/items/{id}.json/notes"
    params := [{ name := "id", location := "path" }] }

/-- The notes on an item, before the set-up. -/
def itemNotes : Resource := { path := storeNote.restPath, calls := [storeNote] }

/-- The number of the item counts as one that the POST supplies, far from the end. -/
theorem not_missingRecognised_itemNotes :
    ∃ ready, init [] itemNotes false = (ready, none) ∧ ready.tokens.isEmpty = false ∧
      (ready.path.variableNames.map Text.lower).Nodup ∧
      ∃ entry ∈ ready.params.entries, entry.2.isPath = true ∧
        entry.2.param.name ∈ ready.path.variableNames ∧
        entry.2.param.name ∉ ready.path.lastPlaceholders ∧ entry.2.missing = false ∧
        ¬ ready.MissingRecognised entry.2 := by
  have haccepted : (init [] itemNotes false).2 = none := by decide +kernel
  have hinit : init [] itemNotes false = ((init [] itemNotes false).1, none) :=
    Prod.ext rfl haccepted
  refine ⟨_, hinit, by decide +kernel, by decide +kernel, ?_⟩
  have hentry : ∃ entry ∈ (init [] itemNotes false).1.params.entries, entry.2.isPath = true ∧
      entry.2.param.name ∈ (init [] itemNotes false).1.path.variableNames ∧
      entry.2.param.name ∉ (init [] itemNotes false).1.path.lastPlaceholders ∧
      entry.2.missing = false := by
    decide +kernel
  obtain ⟨entry, hmem, hpath, hname, hnotLast, hmissing⟩ := hentry
  refine ⟨entry, hmem, hpath, hname, hnotLast, hmissing, fun recognised => ?_⟩
  have hcounted := (recognised.path hpath hname).mpr fun hlast => hnotLast hlast.2
  rw [hmissing] at hcounted
  cases hcounted

end ResourceGroup

end RestCatalog
