import Mathlib.Data.List.DropRight
import RestCatalog.Proofs.OpenApi
import RestCatalog.Proofs.OrderedMap

/-!
# The parameters of an operation

An operation has the parameters that its path lists and those that it lists itself, and a
parameter is told apart by its name and its location.  `paramObjects` says which objects count:
one for every name and location that occurs, in the order of first occurrence, and that is the
last own object with them, or the last shared one if there is no own one.

* What is listed twice is written into the slot of the first one, so merging leaves the last
  object of each slot (`mergeParams_eq`, by `OrderedMap.values_lastBy`).  All references share one
  slot, since they have neither a name nor a location.
* Without the references, these are the `paramObjects` (`kept_values_lastBy`), and an object whose
  fields are accepted is read as the parameter that it describes (`readParam_eq`).
-/

namespace RestCatalog.OpenApi

open Document

/-! ## Checked fields -/

section Checked

variable {α : Type} {fields : Fields} {name : String} {check : Value → Checked α} {default : α}

/-- Whether a field is left out or passes a check. -/
def accepts (fields : Fields) (name : String) (check : Value → Checked α) : Bool :=
  match (Value.field? fields name).map check with
  | some (.rejected _) => false
  | _ => true

/-- What a check makes of a field, or a default if the field is left out. -/
def checkedOr (fields : Fields) (name : String) (check : Value → Checked α) (default : α) : α :=
  match (Value.field? fields name).map check with
  | some (.valid result) => result
  | _ => default

theorem accepts_iff :
    accepts fields name check = true ↔ Accepts (Value.field? fields name) (Checked.Gives check) := by
  unfold accepts Accepts Checked.Gives
  cases hfield : Value.field? fields name with
  | none => simp
  | some value => cases hvalue : check value <;> simp [hvalue]

theorem reads_checkedOr (haccepts : accepts fields name check = true) (default : α) :
    Reads (Value.field? fields name) (Checked.Gives check) default
      (checkedOr fields name check default) := by
  unfold checkedOr
  cases hfield : Value.field? fields name with
  | none => exact .absent rfl
  | some value =>
      obtain ⟨result, hvalue : check value = .valid result⟩ := accepts_iff.mp haccepts value hfield
      rw [Option.map_some, hvalue]
      exact .given rfl hvalue

theorem check_fieldOr {defaultValue : Value} (haccepts : accepts fields name check = true)
    (hdefault : Value.field? fields name = none → check defaultValue = .valid default) :
    check (fieldOr fields name defaultValue) = .valid (checkedOr fields name check default) := by
  have hreads := reads_checkedOr haccepts default
  generalize checkedOr fields name check default = result at hreads ⊢
  unfold fieldOr
  cases hreads with
  | given hfield hvalue =>
      rw [hfield]
      exact hvalue
  | absent hfield =>
      rw [hfield]
      exact hdefault hfield

theorem optional_eq (haccepts : accepts fields name check = true) :
    fields.optional name check default = .valid (checkedOr fields name check default) :=
  (Checked.ifGiven_eq_valid_iff fun _ _ => Iff.rfl).mpr (reads_checkedOr haccepts default)

end Checked

/-! ## Mappings inside of fields -/

def isMap : Value → Bool
  | .map _ => true
  | _ => false

def isText : Value → Bool
  | .text _ => true
  | _ => false

/-- The fields of a mapping; none if it is left out. -/
def mapOf : Option Value → Fields
  | some (.map fields) => fields
  | _ => []

theorem exists_of_isMap {value : Value} (hmap : isMap value = true) :
    ∃ fields, value = .map fields := by
  cases value with
  | map fields => exact ⟨fields, rfl⟩
  | _ => cases hmap

theorem getD_eq_map {value : Option Value} (hmap : value.all isMap = true) :
    value.getD (.map []) = .map (mapOf value) := by
  cases value with
  | none => rfl
  | some value =>
      obtain ⟨fields, rfl⟩ := exists_of_isMap hmap
      rfl

/-! ## Names and locations -/

/-- What a parameter is told apart by. -/
structure ParamId where
  name : String
  location : String
deriving DecidableEq, Repr

/-- The name and the location of an object, if it has both as texts. -/
def idOf (object : Fields) : Option ParamId :=
  match Value.field? object "name", Value.field? object "in" with
  | some (.text name), some (.text location) => some ⟨name, location⟩
  | _, _ => none

theorem fields_of_idOf {object : Fields} {id : ParamId} (hid : idOf object = some id) :
    Value.field? object "name" = some (.text id.name) ∧
      Value.field? object "in" = some (.text id.location) := by
  unfold idOf at hid
  split at hid
  case h_1 name location hname hlocation =>
    obtain rfl := Option.some.inj hid
    exact ⟨hname, hlocation⟩
  case h_2 => cases hid

/-- Whether an object refers to a parameter that is kept elsewhere. -/
def isReference (object : Fields) : Bool := (Value.field? object "$ref").isSome

/-- Whether an object can be listed as a parameter: it has a name and a location, or it only
refers to a parameter. -/
def isListable (object : Fields) : Bool :=
  (idOf object).isSome || (isReference object && (Value.field? object "name").isNone &&
    (Value.field? object "in").isNone)

theorem isReference_of_idOf_eq_none {object : Fields} (hlistable : isListable object = true)
    (hid : idOf object = none) : isReference object = true := by
  unfold isListable at hlistable
  rw [hid] at hlistable
  simp only [Option.isSome_none, Bool.false_or, Bool.and_eq_true] at hlistable
  exact hlistable.1.1

/-- The slot of a name and a location, or the one that all references share. -/
def slotWith : Option ParamId → ParamSlot
  | some id => ⟨.text id.name, .text id.location⟩
  | none => ⟨.null, .null⟩

theorem same_slotWith (id other : Option ParamId) :
    (slotWith id).same (slotWith other) = decide (id = other) := by
  cases id with
  | none => cases other <;> rfl
  | some id =>
      cases other with
      | none => rfl
      | some other =>
          obtain ⟨name, location⟩ := id
          obtain ⟨otherName, otherLocation⟩ := other
          simp [ParamSlot.same, slotWith, Value.sameKey]

theorem slotOf_eq {object : Fields} (hlistable : isListable object = true) :
    slotOf object = .ok (slotWith (idOf object)) := by
  unfold isListable at hlistable
  cases hid : idOf object with
  | some id =>
      obtain ⟨hname, hlocation⟩ := fields_of_idOf hid
      simp [slotOf, fieldOrNull, fieldOr, hname, hlocation, Value.isKey, slotWith]
  | none =>
      rw [hid] at hlistable
      simp only [Option.isSome_none, Bool.false_or, Bool.and_eq_true, Option.isNone_iff_eq_none]
        at hlistable
      obtain ⟨⟨-, hname⟩, hlocation⟩ := hlistable
      simp [slotOf, fieldOrNull, fieldOr, hname, hlocation, Value.isKey, slotWith]

/-! ## Merging -/

/-- The entries of merged objects, each in its slot. -/
def slotted (merged : OrderedMap (Option ParamId) Fields) : List ParamEntry :=
  merged.entries.map fun entry => (slotWith entry.1, entry.2)

theorem putParam_slotted (merged : OrderedMap (Option ParamId) Fields) (id : Option ParamId)
    (object : Fields) :
    putParam (slotWith id, object) (slotted merged) = slotted (merged.insert id object) := by
  obtain ⟨entries⟩ := merged
  unfold slotted OrderedMap.insert
  induction entries with
  | nil => rfl
  | cons entry rest ih =>
      rw [List.map_cons, putParam, same_slotWith, OrderedMap.insertEntry]
      by_cases hsame : entry.1 = id
      · rw [if_pos (by simp [hsame]), if_pos hsame, hsame]
        rfl
      · rw [if_neg (by simp [hsame]), if_neg hsame]
        exact congrArg ((slotWith entry.1, entry.2) :: ·) ih

/-- Merging writes objects one after the other into the slots of their names and locations. -/
theorem mergeParams_slotted {objects : List Fields}
    (hlistable : ∀ object ∈ objects, isListable object = true)
    (merged : OrderedMap (Option ParamId) Fields) :
    mergeParams (slotted merged) (objects.map Value.map) =
      .ok (slotted (objects.foldl (fun merged object => merged.insert (idOf object) object)
        merged)) := by
  induction objects generalizing merged with
  | nil => rfl
  | cons object rest ih =>
      obtain ⟨hobject, hrest⟩ := List.forall_mem_cons.mp hlistable
      rw [List.map_cons, mergeParams, fieldsOf, List.foldl_cons, ← ih hrest, ← putParam_slotted]
      show (slotOf object >>= fun slot => _) = _
      rw [slotOf_eq hobject]
      rfl

/-- Shared objects and then own ones leave the last object of each slot. -/
theorem mergeParams_eq {shared own : List Fields}
    (hlistable : ∀ object ∈ shared ++ own, isListable object = true) :
    (mergeParams [] (shared.map Value.map) >>= fun merged => mergeParams merged (own.map Value.map)) =
      .ok (slotted (OrderedMap.lastBy idOf (shared ++ own))) := by
  obtain ⟨hshared, hown⟩ := List.forall_mem_append.mp hlistable
  have hfirst := mergeParams_slotted hshared {}
  have hthen := mergeParams_slotted hown
    (shared.foldl (fun merged object => merged.insert (idOf object) object) {})
  unfold OrderedMap.lastBy
  rw [List.foldl_append, ← hthen]
  show (mergeParams (slotted {}) (shared.map Value.map) >>= fun merged => _) = _
  rw [hfirst]
  rfl

/-! ## The objects that count -/

/-- The names and locations that occur, in the order of first occurrence. -/
def idsOf (objects : List Fields) : List ParamId := (objects.filterMap idOf).eraseDups

/-- The last object with a name and a location. -/
def lastWith? (id : ParamId) (objects : List Fields) : Option Fields :=
  (objects.filter fun object => idOf object = some id).getLast?

/-- The object that counts for each name and location: the last own one, or else the last shared
one. -/
def paramObjects (shared own : List Fields) : List Fields :=
  (idsOf (shared ++ own)).filterMap fun id => (lastWith? id own).or (lastWith? id shared)

theorem or_lastWith? (id : ParamId) (shared own : List Fields) :
    (lastWith? id own).or (lastWith? id shared) = lastWith? id (shared ++ own) := by
  unfold lastWith?
  rw [List.filter_append, List.getLast?_append]

theorem lastWith?_isSome {id : ParamId} {objects : List Fields} (hid : id ∈ idsOf objects) :
    ∃ object, lastWith? id objects = some object ∧ idOf object = some id := by
  obtain ⟨object, hobject, hhas⟩ := List.mem_filterMap.mp (List.mem_eraseDups.mp hid)
  have hsome : (objects.filter fun object => idOf object = some id) ≠ [] :=
    List.ne_nil_of_mem (List.mem_filter.mpr ⟨hobject, decide_eq_true hhas⟩)
  refine ⟨_, List.getLast?_eq_some_getLast hsome, ?_⟩
  simpa using (List.mem_filter.mp (List.getLast_mem hsome)).2

/-- For each name and location that occurs, one object counts, and has them. -/
theorem map_idOf_paramObjects (shared own : List Fields) :
    (paramObjects shared own).map idOf = (idsOf (shared ++ own)).map some := by
  unfold paramObjects
  rw [List.map_filterMap, ← List.filterMap_eq_map]
  refine List.filterMap_congr fun id hid => ?_
  obtain ⟨object, hobject, hhas⟩ := lastWith?_isSome hid
  rw [or_lastWith?, hobject, Option.map_some, hhas]
  rfl

/-- Without the references, the objects that are left by merging are those that count. -/
theorem kept_values_lastBy {shared own : List Fields}
    (hlistable : ∀ object ∈ shared ++ own, isListable object = true) :
    ((OrderedMap.lastBy idOf (shared ++ own)).values.filter fun object => !isReference object) =
      (paramObjects shared own).filter fun object => !isReference object := by
  -- the slots that have a name and a location are the names and locations that occur
  have hids := @filterMap_eraseDups _ ParamId _ _ id (fun _ _ _ hitem hother => hitem.trans hother.symm)
    ((shared ++ own).map idOf)
  rw [List.filterMap_map, Function.id_comp] at hids
  unfold paramObjects idsOf
  rw [OrderedMap.values_lastBy, ← hids, List.filterMap_filterMap, ← List.filterMap_eq_filter,
    List.filterMap_filterMap, List.filterMap_filterMap]
  refine List.filterMap_congr fun key hkey => ?_
  cases key with
  | some id =>
      rw [id_eq, Option.bind_some, or_lastWith?]
      rfl
  | none =>
      -- what has no name and no location is a reference
      cases hlast : ((shared ++ own).filter fun object => idOf object = none).getLast? with
      | none => rfl
      | some object =>
          obtain ⟨hobject, hid⟩ := List.mem_filter.mp (List.mem_of_getLast? hlast)
          simp [isReference_of_idOf_eq_none (hlistable object hobject) (of_decide_eq_true hid)]

/-! ## Reading an object -/

/-- The name of the schema that a schema refers to, if it does. -/
def referred (schema : Fields) : Option String :=
  match Value.field? schema "$ref" with
  | some (.text ref) =>
    if ref.isEmpty then none else some (String.ofList (ref.toList.rtakeWhile (· != '/')))
  | _ => none

/-- Whether a schema refers to nothing, or to something by a text. -/
def acceptsReference (schema : Fields) : Bool :=
  (Value.field? schema "$ref").all fun ref => ref.isEmpty || isText ref

/-- The value of a text that may be missing. -/
def textOrNull : Option String → Value
  | some text => .text text
  | none => .null

theorem orNull_textOrNull (text : Option String) :
    Check.orNull Check.text (textOrNull text) = .valid text := by
  cases text <;> rfl

theorem refName_eq {schema : Fields} (haccepts : acceptsReference schema = true) :
    refName schema = .ok (textOrNull (referred schema)) := by
  unfold acceptsReference at haccepts
  unfold refName referred fieldOrNull fieldOr
  cases hfield : Value.field? schema "$ref" with
  | none => rfl
  | some ref =>
      rw [hfield, Option.all_some, Bool.or_eq_true] at haccepts
      rw [Option.getD_some]
      by_cases hempty : ref.isEmpty = true
      · rw [if_pos hempty]
        cases ref with
        | text ref =>
            show _ = Except.ok (textOrNull (if (Value.text ref).isEmpty then none else _))
            rw [if_pos hempty]
            rfl
        | _ => rfl
      · rw [if_neg hempty]
        cases ref with
        | text ref =>
            show _ = Except.ok (textOrNull (if (Value.text ref).isEmpty then none else _))
            rw [if_neg hempty]
            rfl
        | _ => cases haccepts.resolve_left hempty

theorem makeParam_eq {name location required type description refType : Value} {param : Param}
    (hname : Check.text name = .valid param.name)
    (hlocation : Check.text location = .valid param.location)
    (hrequired : Check.bool required = .valid param.required)
    (htype : Check.text type = .valid param.type)
    (hdescription : Check.text description = .valid param.description)
    (hrefType : Check.orNull Check.text refType = .valid param.refType) :
    makeParam name location required type description refType = .ok param := by
  unfold makeParam Param.ofFields Fields.required Fields.optional Checked.ifGiven
  simp only [Value.field?, List.find?, Value.sameKey, String.reduceEq, decide_true, decide_false,
    Option.map_some, hname, hlocation, hrequired, htype, hdescription, hrefType, Checked.inField]
  rfl

/-- The location of an object. -/
def locationOf (object : Fields) : String := checkedOr object "in" Check.text "query"

/-- The parameter that an object describes.  A parameter in the path is required if nothing else
is said. -/
def paramOf (object : Fields) : Param :=
  let schema := mapOf (Value.field? object "schema")
  { name := checkedOr object "name" Check.text ""
    location := locationOf object
    required := checkedOr object "required" Check.bool (locationOf object = "path")
    type := checkedOr schema "type" Check.text
      (checkedOr object "type" Check.text
        (if locationOf object = "body" then "object" else "string"))
    description := checkedOr object "description" Check.text ""
    refType := if locationOf object = "body" then referred schema else none }

/-- Whether the fields of an object that are read have values of the right kinds. -/
def acceptsParam (object : Fields) : Bool :=
  let schema := mapOf (Value.field? object "schema")
  (Value.field? object "schema").all isMap && accepts object "required" Check.bool &&
    accepts schema "type" Check.text &&
    ((Value.field? schema "type").isSome || accepts object "type" Check.text) &&
    accepts object "description" Check.text &&
    (locationOf object != "body" || acceptsReference schema)

theorem locationOf_eq {object : Fields} {id : ParamId} (hid : idOf object = some id) :
    locationOf object = id.location := by
  unfold locationOf checkedOr
  rw [(fields_of_idOf hid).2]
  rfl

/-- The fields of the parameter that an object describes make that parameter, with its reference. -/
theorem makeParam_paramOf {object : Fields} {id : ParamId} {refType : Value}
    (hid : idOf object = some id) (hrequired : accepts object "required" Check.bool = true)
    (htype : accepts (mapOf (Value.field? object "schema")) "type" Check.text = true)
    (hkind : (Value.field? (mapOf (Value.field? object "schema")) "type").isSome = true ∨
      accepts object "type" Check.text = true)
    (hdescription : accepts object "description" Check.text = true)
    (hrefType : Check.orNull Check.text refType = .valid (paramOf object).refType) :
    makeParam (.text id.name) (.text id.location)
        (fieldOr object "required" (.bool (decide (id.location = "path"))))
        (fieldOr (mapOf (Value.field? object "schema")) "type"
          (fieldOr object "type"
            (.text (if decide (id.location = "body") = true then "object" else "string"))))
        (fieldOr object "description" (.text "")) refType = .ok (paramOf object) := by
  have hlocation := locationOf_eq hid
  refine makeParam_eq ?name ?location ?required ?type ?description hrefType
  case name =>
    show _ = Checked.valid (checkedOr object "name" Check.text "")
    unfold checkedOr
    rw [(fields_of_idOf hid).1]
    rfl
  case location =>
    show _ = Checked.valid (locationOf object)
    rw [hlocation]
    rfl
  case required =>
    show _ = Checked.valid (checkedOr object "required" Check.bool (locationOf object = "path"))
    rw [hlocation]
    exact check_fieldOr hrequired fun _ => rfl
  case type =>
    -- the type of the object itself counts only where its schema has none
    refine check_fieldOr htype fun hnone => check_fieldOr (hkind.resolve_left ?_) fun _ => ?_
    · rw [hnone]
      exact Bool.false_ne_true
    · rw [hlocation]
      simp [Check.text]
  case description => exact check_fieldOr hdescription fun _ => rfl

/-- An object that is no reference is read as the parameter that it describes. -/
theorem readParam_eq {object : Fields} {id : ParamId} (hid : idOf object = some id)
    (hread : isReference object = false) (haccepts : acceptsParam object = true) :
    readParam object = .ok (some (paramOf object)) := by
  obtain ⟨hname, hin⟩ := fields_of_idOf hid
  have hlocation := locationOf_eq hid
  unfold acceptsParam at haccepts
  simp only [Bool.and_eq_true, Bool.or_eq_true, bne_iff_ne] at haccepts
  obtain ⟨⟨⟨⟨⟨hschema, hrequired⟩, htype⟩, hkind⟩, hdescription⟩, hrefType⟩ := haccepts
  have hplace : fieldOr object "in" (.text "query") = .text id.location := by
    rw [fieldOr, hin, Option.getD_some]
  have hinner : fieldsOf (fieldOr object "schema" (.map [])) =
      .ok (mapOf (Value.field? object "schema")) := by
    rw [fieldOr, getD_eq_map hschema, fieldsOf]
  unfold readParam
  rw [if_neg (by rw [← isReference, hread]; exact Bool.false_ne_true)]
  simp only [hname, hplace, ok_bind, hinner, Value.sameKey]
  by_cases hbody : id.location = "body"
  · have hreference := refName_eq (hrefType.resolve_left (by rw [hlocation]; exact not_not.mpr hbody))
    have hparam : (paramOf object).refType = referred (mapOf (Value.field? object "schema")) :=
      if_pos (hlocation.trans hbody)
    rw [if_pos (decide_eq_true hbody), hreference, ok_bind,
      makeParam_paramOf hid hrequired htype hkind hdescription (by rw [hparam, orNull_textOrNull])]
    rfl
  · have hparam : (paramOf object).refType = none := if_neg (by rw [hlocation]; exact hbody)
    rw [if_neg (by simpa using hbody),
      makeParam_paramOf hid hrequired htype hkind hdescription (by rw [hparam]; rfl)]
    rfl

/-- Entries are read as the parameters that their objects describe, without the references. -/
theorem readParams_eq {entries : List ParamEntry}
    (hread : ∀ entry ∈ entries, isReference entry.2 = false →
      (idOf entry.2).isSome = true ∧ acceptsParam entry.2 = true) :
    readParams entries =
      .ok (((entries.map Prod.snd).filter fun object => !isReference object).map paramOf) := by
  induction entries with
  | nil => rfl
  | cons entry rest ih =>
      obtain ⟨hentry, hrest⟩ := List.forall_mem_cons.mp hread
      rw [readParams, ih hrest, List.map_cons]
      cases hreference : isReference entry.2 with
      | true =>
          have hnone : readParam entry.2 = .ok none := if_pos hreference
          rw [hnone, List.filter_cons_of_neg (by simp [hreference])]
          rfl
      | false =>
          obtain ⟨hid, haccepts⟩ := hentry hreference
          obtain ⟨id, hid⟩ := Option.isSome_iff_exists.mp hid
          rw [readParam_eq hid hreference haccepts, List.filter_cons_of_pos (by simp [hreference])]
          rfl

/-- The parameters of an operation: those of the objects that count, without the references. -/
def paramsOf (shared own : List Fields) : List Param :=
  ((paramObjects shared own).filter fun object => !isReference object).map paramOf

/-- What is left by merging is read as the parameters of the operation. -/
theorem readParams_lastBy {shared own : List Fields}
    (hlistable : ∀ object ∈ shared ++ own, isListable object = true)
    (haccepts : ∀ object ∈ paramObjects shared own,
      isReference object = false → acceptsParam object = true) :
    readParams (slotted (OrderedMap.lastBy idOf (shared ++ own))) = .ok (paramsOf shared own) := by
  have hvalues : (slotted (OrderedMap.lastBy idOf (shared ++ own))).map Prod.snd =
      (OrderedMap.lastBy idOf (shared ++ own)).values := by
    unfold slotted OrderedMap.values
    rw [List.map_map]
    rfl
  have hkept := kept_values_lastBy hlistable
  rw [readParams_eq, hvalues, hkept]
  · rfl
  · intro entry hentry hreference
    -- an entry that is no reference is an object that counts
    have hmem : entry.2 ∈ (paramObjects shared own).filter fun object => !isReference object := by
      rw [← hkept, ← hvalues]
      exact List.mem_filter.mpr ⟨List.mem_map_of_mem hentry, by rw [hreference]; rfl⟩
    have hcounts := (List.mem_filter.mp hmem).1
    have hid := List.mem_map_of_mem (f := idOf) hcounts
    rw [map_idOf_paramObjects] at hid
    obtain ⟨id, -, hid⟩ := List.mem_map.mp hid
    exact ⟨by rw [← hid]; rfl, haccepts entry.2 hcounts hreference⟩

end RestCatalog.OpenApi
