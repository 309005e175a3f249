import RestCatalog.Proofs.OpenApi.Parameters

/-!
# A description is read as it is written

`described` says what the endpoints of a description are, without reading it step by step: one
for each path and each key of its item that is one of five methods, in the order of the
description, with the parameters of the operation and then one more for its request body.
`acceptsDescription` says that the fields that are read have values of the right kinds; nothing is
asked of the others.

Each part of a description that is accepted is read as what it describes: the body of a request
(`readBody_eq`), an operation (`readOperation_eq`), the item of a path (`readItem_eq`) and so the
whole (`endpoints_eq_described`).
-/

namespace RestCatalog.OpenApi

open Document

/-! ## Lists of parameters -/

/-- The objects that fields list as parameters. -/
def objectsOf (fields : Fields) : List Fields :=
  match Value.field? fields "parameters" with
  | some (.list values) => values.map fun value => mapOf (some value)
  | _ => []

/-- Whether fields list nothing but objects that can be listed as parameters. -/
def listsParams (fields : Fields) : Bool :=
  match Value.field? fields "parameters" with
  | none => true
  | some (.list values) => values.all fun value => isMap value && isListable (mapOf (some value))
  | _ => false

theorem listed_eq {fields : Fields} (hlists : listsParams fields = true) :
    listed (fieldOr fields "parameters" (.list [])) = .ok ((objectsOf fields).map Value.map) ∧
      ∀ object ∈ objectsOf fields, isListable object = true := by
  unfold listsParams at hlists
  unfold fieldOr objectsOf
  match hfield : Value.field? fields "parameters", hlists with
  | none, _ => exact ⟨rfl, List.forall_mem_nil _⟩
  | some (.list values), hall =>
      simp only [List.all_eq_true, Bool.and_eq_true] at hall
      constructor
      · show Except.ok values = .ok ((values.map fun value => mapOf (some value)).map Value.map)
        rw [List.map_map]
        refine congrArg Except.ok ((List.map_id values).symm.trans ?_)
        refine List.map_congr_left fun value hvalue => ?_
        obtain ⟨fields, rfl⟩ := exists_of_isMap (hall value hvalue).1
        rfl
      · intro object hobject
        obtain ⟨value, hvalue, rfl⟩ := List.mem_map.mp hobject
        exact (hall value hvalue).2

/-! ## Request bodies -/

/-- The content of a request that counts: that of the first of some types that is there, or else
whatever stands first. -/
def contentAt (types : List String) (content : Fields) : Option Value :=
  (types.findSome? (Value.field? content)).or (content.head?.map Prod.snd)

/-- The content of a body that counts: JSON, or else a form, or else the first one. -/
def bodyContent (body : Fields) : Option Value :=
  contentAt ["application/json", "multipart/form-data"] (mapOf (Value.field? body "content"))

/-- The schema of a request body. -/
def bodySchema (body : Fields) : Fields :=
  mapOf (Value.field? (mapOf (bodyContent body)) "schema")

/-- The parameter that a request body describes. -/
def bodyOf (body : Fields) : Param where
  name := "body"
  location := "body"
  required := checkedOr body "required" Check.bool false
  type := checkedOr (bodySchema body) "type" Check.text "object"
  description := checkedOr body "description" Check.text ""
  refType := referred (bodySchema body)

/-- The parameter that the request body of an operation describes, unless the body is left out or
empty. -/
def bodyParam? (operation : Fields) : Option Param :=
  if (fieldOrNull operation "requestBody").isEmpty then none
  else some (bodyOf (mapOf (Value.field? operation "requestBody")))

/-- Whether the fields of a request body that are read have values of the right kinds. -/
def acceptsBody (body : Fields) : Bool :=
  (Value.field? body "content").all isMap && (bodyContent body).all isMap &&
    (Value.field? (mapOf (bodyContent body)) "schema").all
      (fun schema => schema.isEmpty || isMap schema) &&
    accepts body "required" Check.bool && accepts (bodySchema body) "type" Check.text &&
    accepts body "description" Check.text && acceptsReference (bodySchema body)

theorem fieldsOf_orEmpty {value : Option Value}
    (hmap : (value.all fun value => value.isEmpty || isMap value) = true) :
    fieldsOf (orEmpty (value.getD .null)) = .ok (mapOf value) := by
  cases value with
  | none => rfl
  | some value =>
      rw [Option.all_some, Bool.or_eq_true] at hmap
      rw [Option.getD_some, orEmpty]
      by_cases hempty : value.isEmpty = true
      · rw [if_pos hempty]
        cases value with
        | map fields =>
            have hnil : fields = [] := List.isEmpty_iff.mp hempty
            rw [hnil]
            rfl
        | _ => rfl
      · rw [if_neg hempty]
        cases value with
        | map fields => rfl
        | _ => cases hmap.resolve_left hempty

theorem schemaOf_eq {content : Value} (hmap : isMap content = true) :
    schemaOf content = .ok (fieldOrNull (mapOf (some content)) "schema") := by
  cases content with
  | map fields => rfl
  | _ => cases hmap

theorem contentSchema_eq {content : Fields} {types : List String}
    (hmap : (contentAt types content).all isMap = true) :
    contentSchema (.map content) types =
      .ok (fieldOrNull (mapOf (contentAt types content)) "schema") := by
  induction types with
  | nil =>
      cases content with
      | nil => rfl
      | cons first rest => exact schemaOf_eq hmap
  | cons type others ih =>
      show (hasMember (.map content) type >>= _) = _
      rw [hasMember, ok_bind]
      cases hfield : Value.field? content type with
      | none =>
          have hskip : contentAt (type :: others) content = contentAt others content := by
            unfold contentAt
            rw [List.findSome?_cons, hfield]
          rw [hskip] at hmap ⊢
          exact ih hmap
      | some first =>
          have hfirst : contentAt (type :: others) content = some first := by
            unfold contentAt
            rw [List.findSome?_cons, hfield]
            rfl
          rw [hfirst] at hmap ⊢
          show schemaOf (fieldOrNull content type) = _
          rw [fieldOrNull, fieldOr, hfield]
          exact schemaOf_eq hmap

/-- A body that is there is read as the parameter that it describes. -/
theorem readBody_map {body : Fields} (hsome : (Value.map body).isEmpty = false)
    (haccepts : acceptsBody body = true) : readBody (.map body) = .ok (some (bodyOf body)) := by
  unfold acceptsBody at haccepts
  simp only [Bool.and_eq_true] at haccepts
  obtain ⟨⟨⟨⟨⟨⟨hcontent, hchosen⟩, hschema⟩, hrequired⟩, htype⟩, hdescription⟩, hreference⟩ := haccepts
  have hread : contentSchema (fieldOr body "content" (.map []))
      ["application/json", "multipart/form-data"] =
      .ok (fieldOrNull (mapOf (bodyContent body)) "schema") := by
    rw [fieldOr, getD_eq_map hcontent]
    exact contentSchema_eq hchosen
  have hfields : fieldsOf (orEmpty (fieldOrNull (mapOf (bodyContent body)) "schema")) =
      .ok (bodySchema body) := fieldsOf_orEmpty hschema
  have hmade : makeParam (.text "body") (.text "body") (fieldOr body "required" (.bool false))
      (fieldOr (bodySchema body) "type" (.text "object")) (fieldOr body "description" (.text ""))
      (textOrNull (referred (bodySchema body))) = .ok (bodyOf body) :=
    makeParam_eq rfl rfl (check_fieldOr hrequired fun _ => rfl) (check_fieldOr htype fun _ => rfl)
      (check_fieldOr hdescription fun _ => rfl) (orNull_textOrNull _)
  unfold readBody
  rw [if_neg (Bool.eq_false_iff.mp hsome), fieldsOf, ok_bind]
  dsimp only
  rw [hread, ok_bind, hfields, ok_bind, refName_eq hreference, ok_bind, hmade]
  rfl

/-- Whether an operation has a request body of the right kind, if it has any. -/
def acceptsRequest (operation : Fields) : Bool :=
  (Value.field? operation "requestBody").all fun body =>
    body.isEmpty || (isMap body && acceptsBody (mapOf (some body)))

/-- The request body of an operation is read as the parameter that it describes. -/
theorem readBody_eq {operation : Fields} (haccepts : acceptsRequest operation = true) :
    readBody (fieldOrNull operation "requestBody") = .ok (bodyParam? operation) := by
  unfold acceptsRequest at haccepts
  unfold bodyParam?
  cases hempty : (fieldOrNull operation "requestBody").isEmpty with
  | true => exact if_pos hempty
  | false =>
      rw [if_neg Bool.false_ne_true]
      unfold fieldOrNull fieldOr at hempty ⊢
      cases hfield : Value.field? operation "requestBody" with
      | none =>
          rw [hfield] at hempty
          cases hempty
      | some body =>
          rw [hfield, Option.getD_some] at hempty
          rw [hfield, Option.all_some, hempty, Bool.false_or, Bool.and_eq_true] at haccepts
          obtain ⟨fields, rfl⟩ := exists_of_isMap haccepts.1
          exact readBody_map hempty haccepts.2

/-! ## Operations -/

/-- The endpoint that an operation describes. -/
def endpointOf (path method : String) (shared : List Fields) (operation : Fields) : Endpoint where
  method := method
  path := path
  summary := checkedOr operation "summary" Check.text ""
  params := paramsOf shared (objectsOf operation) ++ (bodyParam? operation).toList
  tags := checkedOr operation "tags" (Check.list Check.text) []

/-- Whether the fields of an operation that are read have values of the right kinds. -/
def acceptsOperation (shared : List Fields) (operation : Fields) : Bool :=
  listsParams operation &&
    (paramObjects shared (objectsOf operation)).all
      (fun object => isReference object || acceptsParam object) &&
    acceptsRequest operation && accepts operation "summary" Check.text &&
    accepts operation "tags" (Check.list Check.text)

theorem readOperation_eq {path method : String} {item operation : Fields}
    (hlists : listsParams item = true)
    (haccepts : acceptsOperation (objectsOf item) operation = true) :
    readOperation (.text path) method (fieldOr item "parameters" (.list [])) (.map operation) =
      .ok (endpointOf path method (objectsOf item) operation) := by
  unfold acceptsOperation at haccepts
  simp only [Bool.and_eq_true, List.all_eq_true, Bool.or_eq_true] at haccepts
  obtain ⟨⟨⟨⟨hown, hparams⟩, hrequest⟩, hsummary⟩, htags⟩ := haccepts
  obtain ⟨hlisted, hlistable⟩ := listed_eq hlists
  obtain ⟨hlistedOwn, hlistableOwn⟩ := listed_eq hown
  have hall : ∀ object ∈ objectsOf item ++ objectsOf operation, isListable object = true :=
    List.forall_mem_append.mpr ⟨hlistable, hlistableOwn⟩
  have hread : readParams (slotted (OrderedMap.lastBy idOf (objectsOf item ++ objectsOf operation))) =
      .ok (paramsOf (objectsOf item) (objectsOf operation)) := by
    refine readParams_lastBy hall fun object hobject hreference => ?_
    exact (hparams object hobject).resolve_left (Bool.eq_false_iff.mp hreference)
  unfold readOperation
  rw [fieldsOf, ok_bind, hlisted, ok_bind]
  simp only [hlistedOwn, ok_bind]
  rw [← bind_assoc, mergeParams_eq hall, ok_bind, hread, ok_bind, readBody_eq hrequest, ok_bind,
    optional_eq hsummary, optional_eq htags]
  rfl

/-! ## Paths -/

/-- The operation under a key that is a method in any letter case, with the method. -/
def operationOf? : Value × Value → Option (String × Fields)
  | (.text key, .map operation) =>
    if methods.contains (Text.upper key) then some (Text.upper key, operation) else none
  | _ => none

/-- The operations of an item, in order. -/
def operationsOf (item : Fields) : List (String × Fields) := item.filterMap operationOf?

/-- Whether an entry of an item stands under a text, and is an operation of the right kind if the
text is a method. -/
def acceptsEntry (shared : List Fields) : Value × Value → Bool
  | (.text key, operation) =>
    !methods.contains (Text.upper key) ||
      (isMap operation && acceptsOperation shared (mapOf (some operation)))
  | _ => false

def acceptsItem (item : Fields) : Bool :=
  listsParams item && item.all (acceptsEntry (objectsOf item))

/-- The endpoints that the item of a path describes. -/
def describedItem (path : String) (item : Fields) : List Endpoint :=
  (operationsOf item).map fun operation =>
    endpointOf path operation.1 (objectsOf item) operation.2

theorem readItem_eq {path : String} {item : Fields} (hlists : listsParams item = true)
    {entries : Fields} (haccepts : ∀ entry ∈ entries, acceptsEntry (objectsOf item) entry = true) :
    readItem (.text path) (fieldOr item "parameters" (.list [])) entries =
      .ok ((operationsOf entries).map fun operation =>
        endpointOf path operation.1 (objectsOf item) operation.2) := by
  induction entries with
  | nil => rfl
  | cons entry rest ih =>
      obtain ⟨hentry, hrest⟩ := List.forall_mem_cons.mp haccepts
      obtain ⟨key, operation⟩ := entry
      cases key with
      | text key =>
          unfold readItem operationsOf
          dsimp only
          cases hmethod : methods.contains (Text.upper key) with
          | false =>
              have hnone : operationOf? (.text key, operation) = none := by
                cases operation with
                | map fields => exact if_neg (Bool.eq_false_iff.mp hmethod)
                | _ => rfl
              rw [if_neg Bool.false_ne_true, ok_bind, ih hrest, ok_bind,
                List.filterMap_cons_none hnone]
              rfl
          | true =>
              simp only [acceptsEntry, hmethod, Bool.not_true, Bool.false_or, Bool.and_eq_true]
                at hentry
              obtain ⟨fields, rfl⟩ := exists_of_isMap hentry.1
              have hsome : operationOf? (.text key, .map fields) = some (Text.upper key, fields) :=
                if_pos hmethod
              have hread := @readOperation_eq path (Text.upper key) item fields hlists hentry.2
              rw [if_pos rfl, hread, ih hrest, List.filterMap_cons_some hsome]
              rfl
      | _ => cases hentry

/-- The items of some paths. -/
def itemsOf (paths : Fields) : List (String × Fields) :=
  paths.filterMap fun entry =>
    match entry with
    | (.text path, .map item) => some (path, item)
    | _ => none

/-- Whether an entry is an item of the right kind under a text. -/
def acceptsPath : Value × Value → Bool
  | (.text _, .map item) => acceptsItem item
  | _ => false

theorem readPaths_eq {paths : Fields} (haccepts : ∀ entry ∈ paths, acceptsPath entry = true) :
    readPaths paths = .ok ((itemsOf paths).flatMap fun entry => describedItem entry.1 entry.2) := by
  induction paths with
  | nil => rfl
  | cons entry rest ih =>
      obtain ⟨hentry, hrest⟩ := List.forall_mem_cons.mp haccepts
      match entry, hentry with
      | (.text path, .map item), hitem =>
          unfold acceptsPath acceptsItem at hitem
          rw [Bool.and_eq_true, List.all_eq_true] at hitem
          have hread := @readItem_eq path item hitem.1 item hitem.2
          unfold readPaths
          rw [fieldsOf, ok_bind, hread, ok_bind, ih hrest, ok_bind]
          rfl

/-- The endpoints that a description describes. -/
def described (document : Fields) : List Endpoint :=
  (itemsOf (mapOf (Value.field? document "paths"))).flatMap fun entry =>
    describedItem entry.1 entry.2

/-- Whether what is read of a description has values of the right kinds. -/
def acceptsDescription (document : Fields) : Bool :=
  (Value.field? document "paths").all (fun paths => paths.isEmpty || isMap paths) &&
    (mapOf (Value.field? document "paths")).all acceptsPath

theorem required_paramOf_of_path {object : Fields} (hpath : locationOf object = "path")
    (hnone : Value.field? object "required" = none) : (paramOf object).required = true := by
  show checkedOr object "required" Check.bool (locationOf object = "path") = true
  unfold checkedOr
  rw [hnone, hpath]
  rfl

/-- A description whose fields are of the right kinds is read, and as it is written: its endpoints
are those that it describes.  The objects that count for their parameters are one for each name
and location that occurs, in order, and a parameter in the path is required if nothing else is
said. -/
theorem endpoints_eq_described {document : Fields} (haccepts : acceptsDescription document = true) :
    endpoints document = .ok (described document) ∧
      (∀ shared own : List Fields,
        (paramObjects shared own).map idOf = (idsOf (shared ++ own)).map some) ∧
      ∀ object : Fields, locationOf object = "path" → Value.field? object "required" = none →
        (paramOf object).required = true := by
  refine ⟨?_, map_idOf_paramObjects, fun _ => required_paramOf_of_path⟩
  unfold acceptsDescription at haccepts
  rw [Bool.and_eq_true, List.all_eq_true] at haccepts
  have hfields := fieldsOf_orEmpty haccepts.1
  unfold endpoints described
  rw [fieldOrNull, fieldOr, hfields, ok_bind]
  exact readPaths_eq haccepts.2

/-- An object with a name, a location and further fields. -/
def listedParam (name location : String) (further : Fields) : Value :=
  .map ((.text "name", .text name) :: (.text "in", .text location) :: further)

/-- A reference to an object that is kept elsewhere. -/
def reference (target : String) : Value := .map [(.text "$ref", .text target)]

/-- A shop that can be read in one of several languages, and replaced. -/
def shopDescription : Fields :=
  [(.text "paths", .map [(.text "/shops/{shopId}", .map [
    (.text "parameters", .list [listedParam "shopId" "path" [], reference "#/parameters/trace",
      listedParam "lang" "query" []]),
    (.text "get", .map [
      (.text "summary", .text "Read a shop"),
      (.text "parameters", .list [listedParam "page" "query"
          [(.text "schema", .map [(.text "type", .text "integer")])],
        reference "#/parameters/token",
        listedParam "lang" "query" [(.text "required", .text "yes")]])]),
    (.text "Put", .map [
      (.text "tags", .list [.text "shops"]),
      (.text "requestBody", .map [(.text "content", .map [(.text "application/json",
        .map [(.text "schema", reference "#/schemas/Shop")])])])])])])]

/-- The own language takes the place of the shared one, the references are left out, and the
content of the request comes last. -/
theorem endpoints_eq_described_shop :
    acceptsDescription shopDescription = true ∧
      endpoints shopDescription = .ok [
        { method := "GET"
          path := "/shops/{shopId}"
          summary := "Read a shop"
          params := [{ name := "shopId", location := "path", required := true },
            { name := "lang", location := "query", required := true },
            { name := "page", location := "query", type := "integer" }] },
        { method := "PUT"
          path := "/shops/{shopId}"
          params := [{ name := "shopId", location := "path", required := true },
            { name := "lang", location := "query" },
            { name := "body", location := "body", type := "object", refType := some "Shop" }]
          tags := ["shops"] }] := by
  have haccepts : acceptsDescription shopDescription = true := by decide +kernel
  refine ⟨haccepts, (endpoints_eq_described haccepts).1.trans (congrArg Except.ok ?_)⟩
  decide +kernel

end RestCatalog.OpenApi
