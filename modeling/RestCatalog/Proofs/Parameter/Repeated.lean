import Mathlib.Data.List.DropRight
import RestCatalog.Proofs.Parameter.Missing
import RestCatalog.Proofs.Path.Segment

/-!
# Parameters of a repeated name

A name may stand in a path more than once, and a call then has a path parameter of that name for
each occurrence.  `OccurrencesTaken` says that these parameters take the occurrences in turn, so
that the key of each is built from the literals in front of its own occurrence.

* The tokens of a name are on the levels where it stands (`OneForEach.map_level_parametersNamed`),
  and the segment that is looked up at such a level is the run of literals in front of it
  (`Gathered.runOf_parameter`, `segmentAt_of_parameter`).
* Among the occurrences a parameter takes the one with its rank, which counts the parameters
  before it with exactly its spelling, wherever they are sent (`paramLevel?_repeated`).  The
  occurrences themselves are found whatever the letter case.
* `occurrencesTaken_iff` concludes that the occurrences are taken in turn exactly where ranks
  and turns agree, as they do if the path parameters of the name are spelled alike and no other
  parameter has their spelling.
-/

namespace RestCatalog

open Text

/-! ## Levels of a name -/

/-- A parameter with a given name, letter case apart. -/
def PathElement.isNamed (name : String) : PathElement → Bool
  | .parameter own => lower own = lower name
  | .literal _ => false

namespace Path

variable {path : Path} {name : String} {level : Nat}

/-- The levels of the parameters with a given name, left to right. -/
def levelsNamed (path : Path) (name : String) : List Nat :=
  (List.range path.levels).filter fun level =>
    path.elements[level]?.any (PathElement.isNamed name)

/-- The literals between a level and the parameter before it. -/
def literalsBefore (path : Path) (level : Nat) : List String :=
  ((path.elements.take level).rtakeWhile fun element => !element.isParameter).map PathElement.text

/-- The segment in front of a level: the words of its literals. -/
def segmentBefore (path : Path) (splitting : Bool) (level : Nat) : String :=
  segmentSeparator.intercalate
    ((path.literalsBefore level).flatMap (PathElement.literalWords splitting))

theorem nodup_levelsNamed (path : Path) (name : String) : (path.levelsNamed name).Nodup :=
  List.nodup_range.filter _

theorem exists_parameter_of_mem_levelsNamed (hlevel : level ∈ path.levelsNamed name) :
    ∃ own, path.elements[level]? = some (.parameter own) := by
  obtain ⟨-, hany⟩ := List.mem_filter.mp hlevel
  obtain ⟨element, helement, hnamed⟩ := (Option.any_eq_true _ _).mp hany
  cases element with
  | parameter own => exact ⟨own, helement⟩
  | literal text => cases hnamed

end Path

namespace TokenMap

variable {tokens : TokenMap} {path : Path} {name : String} {level : Nat} {splitting : Bool}

/-- Tokens that describe the elements one by one stand on the levels from left to right. -/
theorem OneForEach.covers (each : tokens.OneForEach path) : tokens.Covers path where
  map_level := by
    refine List.ext_getElem (by simp [each.length_eq]) fun place hplace _ => ?_
    rw [List.length_map] at hplace
    rw [List.getElem_map, List.getElem_range,
      (each.describes place _ (List.getElem?_eq_getElem hplace)).level_eq]
  map_isParameter := by
    refine List.ext_getElem ?_ fun place hplace hlevel => ?_
    · rw [List.length_map, List.length_map]
      exact each.length_eq
    · rw [List.length_map] at hplace
      obtain ⟨element, helement, -, hsame⟩ :=
        (each.describes place _ (List.getElem?_eq_getElem hplace)).element
      rw [List.getElem_map, List.getElem_map, hsame,
        Option.some.inj (helement.symm.trans (List.getElem?_eq_getElem _))]

/-- The tokens that are found under a name are on the levels of the name. -/
theorem OneForEach.map_level_parametersNamed (each : tokens.OneForEach path) (name : String) :
    (tokens.parametersNamed name).map PathToken.level = path.levelsNamed name := by
  unfold Path.levelsNamed parametersNamed
  rw [← each.covers.map_level, List.filter_map]
  refine congrArg (List.map PathToken.level) (List.filter_congr fun token htoken => ?_)
  obtain ⟨place, hplace⟩ := List.mem_iff_getElem?.mp htoken
  have describes := each.describes place token hplace
  obtain ⟨element, helement, htext, hparameter⟩ := describes.element
  rw [Function.comp_apply, describes.level_eq, helement, Option.any_some, hparameter,
    PathToken.key, htext]
  cases element <;> rfl

/-! ## The segment in front of a parameter -/

/-- A parameter among the tokens of the elements from a level on gathers the literals between
itself and the parameter before it, where the elements `done` stand in front. -/
theorem Gathered.runOf_parameter {front : List PathToken} {before : Option Nat}
    {pending : List String} (gathered : Gathered front level before pending)
    {done : List PathElement} (hdone : done.length = level)
    (hpending : (done.rtakeWhile fun element => !element.isParameter).map PathElement.text = pending)
    (elements : List PathElement) :
    ∀ token ∈ PathToken.ofElements splitting level before pending elements,
      token.isParameter = true →
      runOf (front ++ PathToken.ofElements splitting level before pending elements) token =
        (((done ++ elements).take token.level).rtakeWhile fun element =>
          !element.isParameter).map PathElement.text := by
  induction elements generalizing front level before pending done with
  | nil => exact nofun
  | cons element rest ih =>
      have hlater : ∀ {next : Option Nat} {texts : List String},
          ∀ token ∈ PathToken.ofElements splitting (level + 1) next texts rest,
            level < token.level := fun _ => level_lt_of_mem_ofElements
      have hlength : (done ++ [element]).length = level + 1 := by
        rw [List.length_append, hdone, List.length_singleton]
      intro token htoken hparameter
      cases element with
      | parameter name =>
          rw [PathToken.ofElements] at htoken ⊢
          rcases List.mem_cons.mp htoken with rfl | hrest
          · -- nothing but the pending literals is in front of it
            rw [gathered.runOf_next rfl rfl hlater, ← hpending]
            simp [← hdone]
          · rw [List.append_cons, List.append_cons done]
            refine ih gathered.parameter hlength ?_ token hrest hparameter
            rw [List.rtakeWhile_concat_neg _ _ _ (by simp [PathElement.isParameter]), List.map_nil]
      | literal text =>
          rw [ofElements_literal] at htoken ⊢
          rcases List.mem_cons.mp htoken with rfl | hrest
          · cases hparameter
          · rw [List.append_cons, List.append_cons done]
            refine ih gathered.literal hlength ?_ token hrest hparameter
            rw [List.rtakeWhile_concat_pos _ _ _ (by simp [PathElement.isParameter]), List.map_append,
              hpending]
            rfl

/-- The flat segment at the level of a parameter is the one in front of it. -/
theorem segmentAt_of_parameter (hsome : (ofPath path splitting).isEmpty = false)
    (each : (ofPath path splitting).OneForEach path)
    (hparameter : path.elements[level]? = some (.parameter name)) :
    (ofPath path splitting).segmentAt level true = path.segmentBefore splitting level := by
  have hplace : level < (ofPath path splitting).values.length := by
    rw [each.length_eq]
    exact (List.getElem?_eq_some_iff.mp hparameter).1
  obtain ⟨token, htoken⟩ : ∃ token, (ofPath path splitting).values[level]? = some token :=
    ⟨_, List.getElem?_eq_getElem hplace⟩
  have hmem := List.mem_of_getElem? htoken
  have describes := each.describes level token htoken
  obtain ⟨element, helement, -, hsame⟩ := describes.element
  obtain rfl := Option.some.inj (helement.symm.trans hparameter)
  have hsize : (ofPath path splitting).size = path.levels := by
    rw [← each.length_eq, OrderedMap.values, List.length_map]
    rfl
  have hvalues := values_ofPath hsome hsize
  have hrun : runOf (ofPath path splitting).values token = path.literalsBefore level := by
    rw [hvalues] at hmem ⊢
    have hrun := Gathered.start.runOf_parameter List.length_nil rfl path.elements token hmem hsame
    rw [List.nil_append, List.nil_append, describes.level_eq] at hrun
    exact hrun
  have hat := each.covers.at?_level hmem
  rw [describes.level_eq] at hat
  unfold segmentAt Path.segmentBefore
  rw [hat, ← hrun]
  dsimp only
  rw [segmentOf, if_pos rfl, flatSegment_eq hvalues]

end TokenMap

/-! ## Ranks and turns -/

namespace Param

variable {params : List Param} {name : String} {turn : Nat} {place : Fin params.length}

/-- The places of the path parameters with a given name, letter case apart, in order. -/
def placesNamed (params : List Param) (name : String) : List (Fin params.length) :=
  (List.finRange params.length).filter fun place =>
    (params.get place).isPath && (params.get place).lowerName = lower name

/-- How many parameters with exactly the name of the one at a place stand before it. -/
def rankAt (params : List Param) (place : Fin params.length) : Nat :=
  (params.take place).countP fun other => other.name = (params.get place).name

/-- The path parameters with a name rank in turn; the last one may rank higher. -/
def RanksAreTurns (params : List Param) (name : String) : Prop :=
  ∀ (turn : Nat) (place : Fin params.length), (placesNamed params name)[turn]? = some place →
    rankAt params place = turn ∨
      turn + 1 = (placesNamed params name).length ∧ turn ≤ rankAt params place

/-- In front of an item that was kept stand as many others to keep as its place says. -/
private theorem exists_countP_take {α : Type} {keep : α → Bool} {items : List α} {item : α}
    (hitem : (items.filter keep)[turn]? = some item) :
    ∃ place : Nat, items[place]? = some item ∧ (items.take place).countP keep = turn := by
  induction items generalizing turn with
  | nil => cases hitem
  | cons first rest ih =>
      cases hkeep : keep first with
      | false =>
          rw [List.filter_cons_of_neg (by simp [hkeep])] at hitem
          obtain ⟨place, hplace, hcount⟩ := ih hitem
          exact ⟨place + 1, hplace, by simp [hkeep, hcount]⟩
      | true =>
          rw [List.filter_cons_of_pos hkeep] at hitem
          cases turn with
          | zero => exact ⟨0, hitem, rfl⟩
          | succ turn =>
              obtain ⟨place, hplace, hcount⟩ := ih hitem
              exact ⟨place + 1, hplace, by simp [hkeep, hcount]⟩

theorem mem_placesNamed_iff : place ∈ placesNamed params name ↔
    (params.get place).isPath = true ∧ (params.get place).lowerName = lower name := by
  unfold placesNamed
  simp

/-- The turn of a path parameter counts those with its name before it. -/
theorem countP_take_of_turn (hturn : (placesNamed params name)[turn]? = some place) :
    (params.take place).countP (fun other => other.isPath && other.lowerName = lower name) =
      turn := by
  obtain ⟨before, hbefore, hcount⟩ := exists_countP_take hturn
  obtain ⟨hlt, hplace⟩ := List.getElem?_eq_some_iff.mp hbefore
  have hsame : before = place.val := by
    rw [← hplace, List.getElem_finRange]
    rfl
  subst hsame
  calc (params.take place).countP (fun other => other.isPath && other.lowerName = lower name)
      = (((List.finRange params.length).map params.get).take place).countP
          (fun other => other.isPath && other.lowerName = lower name) := by
        rw [List.map_get_finRange]
    _ = turn := by
        rw [← List.map_take, List.countP_map]
        exact hcount

/-- Where the path parameters with a name are spelled alike and no other parameter has their
spelling, they rank in turn. -/
theorem ranksAreTurns_of_spelling {spelling : String}
    (hspelling : ∀ other ∈ params, other.name = spelling ↔
      other.isPath = true ∧ other.lowerName = lower name) : RanksAreTurns params name := by
  intro turn place hturn
  have hown := mem_placesNamed_iff.mp (List.mem_of_getElem? hturn)
  have hname : (params.get place).name = spelling :=
    (hspelling _ (List.get_mem params place)).mpr hown
  left
  rw [← countP_take_of_turn hturn]
  unfold rankAt
  refine List.countP_congr fun other hother => ?_
  rw [hname, Bool.and_eq_true, decide_eq_true_eq, decide_eq_true_eq]
  exact hspelling other (List.mem_of_mem_take hother)

end Param

/-! ## Occurrences -/

namespace Resource

open Param

variable {resource : Resource} {params : List Param} {name : String}

/-- The path parameters with a name take the occurrences of the name in the path in turn, and the
key of each is built from the segment in front of its own occurrence. -/
structure OccurrencesTaken (resource : Resource) (params : List Param) (name : String) : Prop where
  level : ∀ (turn : Nat) (place : Fin params.length) (level : Nat),
    (placesNamed params name)[turn]? = some place →
    (resource.path.levelsNamed name)[turn]? = some level →
    resource.paramLevel? (.member place) = some level
  key : ∀ (turn : Nat) (place : Fin params.length) (level : Nat),
    (placesNamed params name)[turn]? = some place →
    (resource.path.levelsNamed name)[turn]? = some level →
    resource.paramKey? (.member place) =
      some ((params.get place).key (resource.path.segmentBefore resource.mode.splitsWords level))

/-- A parameter with a repeated name is looked up by its rank; beyond the last occurrence it stays
at that. -/
theorem paramLevel?_repeated (each : resource.tokens.OneForEach resource.path)
    (hrepeated : 2 ≤ (resource.path.levelsNamed name).length) {place : Fin params.length}
    (hplace : place ∈ placesNamed params name) :
    resource.paramLevel? (.member place) =
      (resource.path.levelsNamed name)[min (rankAt params place)
        ((resource.path.levelsNamed name).length - 1)]? := by
  obtain ⟨hpath, hname⟩ := mem_placesNamed_iff.mp hplace
  have hown : (ParamRef.member place).param.isPath = true := hpath
  have hnamed : resource.tokens.parametersNamed (ParamRef.member place).param.name =
      resource.tokens.parametersNamed name := by
    unfold TokenMap.parametersNamed
    rw [← hname]
    rfl
  rw [← each.map_level_parametersNamed name, List.length_map] at hrepeated ⊢
  rcases hfound : resource.tokens.parametersNamed name with _ | ⟨first, _ | ⟨second, others⟩⟩
  · simp [hfound] at hrepeated
  · simp [hfound] at hrepeated
  · have hbelow : min (rankAt params place) (second :: others).length <
        (first :: second :: others).length :=
      Nat.lt_succ_of_le (Nat.min_le_right _ _)
    have hlast : (first :: second :: others).length - 1 = (second :: others).length := rfl
    unfold paramLevel?
    rw [hown, hnamed, hfound, if_neg (by simp)]
    show some ((first :: second :: others).getD
      (min (rankAt params place) (second :: others).length) first).level = _
    rw [List.getD_eq_getElem?_getD, List.getElem?_map, hlast, List.getElem?_eq_getElem hbelow]
    rfl

/-- Where the levels are right, the keys are. -/
theorem occurrencesTaken_of_level (each : resource.tokens.OneForEach resource.path)
    (hlevels : ∀ (turn : Nat) (place : Fin params.length) (level : Nat),
      (placesNamed params name)[turn]? = some place →
      (resource.path.levelsNamed name)[turn]? = some level →
      resource.paramLevel? (.member place) = some level) :
    resource.OccurrencesTaken params name where
  level := hlevels
  key := by
    intro turn place level hturn hlevel
    obtain ⟨own, hparameter⟩ :=
      Path.exists_parameter_of_mem_levelsNamed (List.mem_of_getElem? hlevel)
    have hsome : resource.tokens.isEmpty = false := by
      have hlt : level < resource.tokens.values.length := by
        rw [each.length_eq]
        exact (List.getElem?_eq_some_iff.mp hparameter).1
      unfold OrderedMap.values at hlt
      unfold OrderedMap.isEmpty
      cases hentries : resource.tokens.entries with
      | nil => simp [hentries] at hlt
      | cons entry rest => rfl
    obtain ⟨htokens, -⟩ := ofPath_of_tokens hsome
    have hsegment : resource.tokens.segmentAt level true =
        resource.path.segmentBefore resource.mode.splitsWords level := by
      rw [htokens] at hsome each ⊢
      exact TokenMap.segmentAt_of_parameter hsome each hparameter
    unfold paramKey? paramSegment?
    rw [hlevels turn place level hturn hlevel, Option.map_some, Option.map_some, hsegment]
    rfl

/-- The path parameters of a repeated name, one for each occurrence, take the occurrences in turn
if and only if they rank in turn; and they do so if they are spelled alike and no other parameter
has their spelling. -/
theorem occurrencesTaken_iff (each : resource.tokens.OneForEach resource.path)
    (hrepeated : 2 ≤ (resource.path.levelsNamed name).length)
    (hcount : (placesNamed params name).length = (resource.path.levelsNamed name).length) :
    (resource.OccurrencesTaken params name ↔ RanksAreTurns params name) ∧
      ∀ spelling : String, (∀ other ∈ params, other.name = spelling ↔
        other.isPath = true ∧ other.lowerName = lower name) →
        resource.OccurrencesTaken params name := by
  have hlookup : ∀ (turn : Nat) (place : Fin params.length),
      (placesNamed params name)[turn]? = some place →
      resource.paramLevel? (.member place) =
        (resource.path.levelsNamed name)[min (rankAt params place)
          ((resource.path.levelsNamed name).length - 1)]? :=
    fun turn place hturn => paramLevel?_repeated each hrepeated (List.mem_of_getElem? hturn)
  have htaken : resource.OccurrencesTaken params name ↔ RanksAreTurns params name := by
    constructor
    · intro taken turn place hturn
      have hlt := (List.getElem?_eq_some_iff.mp hturn).1
      rw [hcount] at hlt
      have hlevel := taken.level turn place _ hturn (List.getElem?_eq_getElem hlt)
      -- no two occurrences are on one level
      have hsame : min (rankAt params place) ((resource.path.levelsNamed name).length - 1) = turn := by
        rw [hlookup turn place hturn, ← List.getElem?_eq_getElem hlt] at hlevel
        exact (List.getElem?_inj (by omega) (resource.path.nodup_levelsNamed name)).mp hlevel
      omega
    · intro hranks
      refine occurrencesTaken_of_level each fun turn place level hturn hlevel => ?_
      have hlt := (List.getElem?_eq_some_iff.mp hlevel).1
      have hsame : min (rankAt params place) ((resource.path.levelsNamed name).length - 1) = turn := by
        have hrank := hranks turn place hturn
        omega
      rw [hlookup turn place hturn, hsame, hlevel]
  exact ⟨htaken, fun spelling hspelling => htaken.mpr (ranksAreTurns_of_spelling hspelling)⟩

/-- One item of a shop, where both go by a number. -/
def numberedItem : Resource := { path := Path.ofText "/shops/{id}/items/{ID}", calls := [] }

theorem oneForEach_numberedItem : numberedItem.tokens.OneForEach numberedItem.path := by
  show (TokenMap.ofPath numberedItem.path true).OneForEach numberedItem.path
  have hplain : ∀ name ∈ numberedItem.path.names, '#' ∉ name.toList := by decide +kernel
  exact TokenMap.oneForEach_of_kept (by decide +kernel) true fun _ _ =>
    TokenMap.not_displaces_of_plain hplain

theorem levelsNamed_numberedItem : numberedItem.path.levelsNamed "id" = [1, 3] := by
  decide +kernel

/-- The number of a shop and then that of an item, behind another parameter of a call. -/
def numbersBehind (first : Param) : List Param :=
  [first, { name := "id", location := "path" }, { name := "id", location := "path" }]

/-- Behind a page that is asked for the two numbers are kept apart, though the path spells them in
different ways. -/
theorem occurrencesTaken_numberedItem :
    (placesNamed (numbersBehind { name := "page", location := "query" }) "id").length = 2 ∧
      numberedItem.OccurrencesTaken (numbersBehind { name := "page", location := "query" }) "id" := by
  have hplaces : (placesNamed (numbersBehind { name := "page", location := "query" })
      "id").length = 2 := by
    decide +kernel
  refine ⟨hplaces, (occurrencesTaken_iff oneForEach_numberedItem ?_ ?_).2 "id" (by decide +kernel)⟩
  · rw [levelsNamed_numberedItem]
    exact Nat.le_refl 2
  · rw [levelsNamed_numberedItem, hplaces]
    rfl

/-- Behind a number that is searched for, the number of the shop gets the key of the item's: the
other one is counted too. -/
theorem not_occurrencesTaken_numberedItem :
    numberedItem.tokens.OneForEach numberedItem.path ∧
      numberedItem.path.levelsNamed "id" = [1, 3] ∧
      (placesNamed (numbersBehind { name := "id", location := "query" }) "id").length = 2 ∧
      ¬ numberedItem.OccurrencesTaken (numbersBehind { name := "id", location := "query" }) "id" := by
  refine ⟨oneForEach_numberedItem, levelsNamed_numberedItem, by decide +kernel, fun taken => ?_⟩
  have hlevel := taken.level 0 ⟨1, by decide⟩ 1 (by decide +kernel) (by decide +kernel)
  have hfound : numberedItem.paramLevel? (.member ⟨1, by decide⟩ :
      ParamRef (numbersBehind { name := "id", location := "query" })) = some 3 := by
    decide +kernel
  rw [hfound] at hlevel
  cases hlevel

end Resource

end RestCatalog
