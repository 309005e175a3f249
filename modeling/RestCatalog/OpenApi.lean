import RestCatalog.Document.File
import RestCatalog.Validation.Records

/-!
# Endpoints of an API description

An API description lists operations under paths and methods.  Each operation with
one of five methods becomes an endpoint.  Its parameters are those of the path and
its own, where an own parameter takes the place of one with the same name and
location, and the content of its request becomes one more parameter in the body.
References to parameters kept elsewhere are left out.

Descriptions are not checked beforehand: a part of the wrong kind is found where
it is used, and ends the reading with the first `Fault`.
-/

namespace RestCatalog.OpenApi

open Document

/-- Why a description cannot be read. -/
inductive Fault where
  /-- A mapping or a text was needed where another kind of value stands. -/
  | wrongKind
  /-- A value that cannot be searched or listed, or cannot be part of a key. -/
  | notSearchable
  /-- A parameter without a name. -/
  | nameless
  /-- The fields of a parameter or an endpoint were rejected. -/
  | rejected (problems : List Problem)
deriving DecidableEq, Repr

def Fault.message : Fault → String
  | .wrongKind => "a mapping or a text is needed where another kind of value stands"
  | .notSearchable => "a value can neither be searched nor be part of a key"
  | .nameless => "a parameter has no name"
  | .rejected problems => "; ".intercalate (problems.map Problem.text)

/-- The kinds of descriptions. -/
inductive Format where
  | openapi3
  | swagger2
  | unknown
deriving DecidableEq, Repr

def Format.text : Format → String
  | .openapi3 => "openapi3"
  | .swagger2 => "swagger2"
  | .unknown => "unknown"

/-- The kind of a description by the field that names its version. -/
def Format.of (document : Fields) : Format :=
  if (Value.field? document "openapi").isSome then .openapi3
  else if (Value.field? document "swagger").isSome then .swagger2
  else .unknown

/-- The methods that make endpoints. -/
def methods : List String := ["GET", "POST", "PUT", "DELETE", "PATCH"]

/-- The fields of a mapping. -/
def fieldsOf : Value → Except Fault Fields
  | .map fields => .ok fields
  | _ => .error .wrongKind

/-- A field, or a default if it is left out. -/
def fieldOr (fields : Fields) (name : String) (default : Value) : Value :=
  (Value.field? fields name).getD default

/-- A field, or nothing if it is left out. -/
def fieldOrNull (fields : Fields) (name : String) : Value := fieldOr fields name .null

/-- A value that counts as nothing gives way to an empty mapping. -/
def orEmpty (value : Value) : Value := if value.isEmpty then .map [] else value

/-- What a value lists: the items of a list, the keys of a mapping, the characters of a
text. -/
def listed : Value → Except Fault (List Value)
  | .list items => .ok items
  | .map entries => .ok (entries.map (·.1))
  | .text text => .ok (text.toList.map fun c => .text (String.singleton c))
  | _ => .error .notSearchable

/-! ## Parameters -/

/-- What a parameter is told apart by: its name and location, as far as they are given. -/
structure ParamSlot where
  name : Value
  location : Value

def ParamSlot.same (a b : ParamSlot) : Bool :=
  a.name.sameKey b.name && a.location.sameKey b.location

/-- A parameter description: its slot and its fields. -/
abbrev ParamEntry := ParamSlot × Fields

def slotOf (param : Fields) : Except Fault ParamSlot :=
  let slot : ParamSlot := ⟨fieldOrNull param "name", fieldOrNull param "in"⟩
  if slot.name.isKey && slot.location.isKey then .ok slot else .error .notSearchable

/-- Writes a description into its slot: in place if the slot is taken, else at the end. -/
def putParam (entry : ParamEntry) : List ParamEntry → List ParamEntry
  | [] => [entry]
  | other :: rest =>
    if other.1.same entry.1 then (other.1, entry.2) :: rest else other :: putParam entry rest

/-- Writes listed descriptions one after the other. -/
def mergeParams (merged : List ParamEntry) : List Value → Except Fault (List ParamEntry)
  | [] => .ok merged
  | value :: rest => do
    let fields ← fieldsOf value
    let slot ← slotOf fields
    mergeParams (putParam (slot, fields) merged) rest

/-- The name of the schema that a reference points to: the text behind its last slash. -/
def refName (schema : Fields) : Except Fault Value :=
  let ref := fieldOrNull schema "$ref"
  if ref.isEmpty then .ok .null
  else
    match ref with
    | .text text =>
      .ok (.text (String.ofList (text.toList.reverse.takeWhile (· != '/')).reverse))
    | _ => .error .wrongKind

/-- The parameter with the given fields. -/
def makeParam (name location required type description refType : Value) : Except Fault Param :=
  match Param.ofFields [(.text "name", name), (.text "location", location),
      (.text "required", required), (.text "param_type", type),
      (.text "description", description), (.text "ref_type", refType)] with
  | .valid param => .ok param
  | .rejected problems => .error (.rejected problems)

/-- The parameter of a description; none for a reference.  Parameters are sent in the query and
are optional unless they say otherwise; those in the path are required. -/
def readParam (param : Fields) : Except Fault (Option Param) :=
  if (Value.field? param "$ref").isSome then .ok none
  else do
    let location := fieldOr param "in" (.text "query")
    let isAt (place : String) : Bool := location.sameKey (.text place)
    let name ← match Value.field? param "name" with
      | some name => .ok name
      | none => .error .nameless
    let schema ← fieldsOf (fieldOr param "schema" (.map []))
    let kind := fieldOr param "type" (.text (if isAt "body" then "object" else "string"))
    let refType ← if isAt "body" then refName schema else .ok .null
    let made ← makeParam name location (fieldOr param "required" (.bool (isAt "path")))
      (fieldOr schema "type" kind) (fieldOr param "description" (.text "")) refType
    return some made

/-- The parameters of descriptions without the references. -/
def readParams : List ParamEntry → Except Fault (List Param)
  | [] => .ok []
  | entry :: rest => do
    let param ← readParam entry.2
    let params ← readParams rest
    return param.toList ++ params

/-! ## Request bodies -/

/-- The schema that content of one type names. -/
def schemaOf (content : Value) : Except Fault Value := do
  return fieldOrNull (← fieldsOf content) "schema"

/-- Whether a value has a member: a key of a mapping, an item of a list, a part of a text. -/
def hasMember (container : Value) (name : String) : Except Fault Bool :=
  match container with
  | .map entries => .ok (Value.field? entries name).isSome
  | .list items => .ok (items.any fun item => item.sameKey (.text name))
  | .text text => .ok (Text.occursIn name.toList text.toList)
  | _ => .error .notSearchable

/-- The schema of a request: that of JSON or form content, or else of the first content. -/
def contentSchema (content : Value) : List String → Except Fault Value
  | [] => do
    match ← fieldsOf content with
    | [] => return .null
    | (_, first) :: _ => schemaOf first
  | type :: others => do
    if ← hasMember content type then
      match content with
      | .map entries => schemaOf (fieldOrNull entries type)
      | _ => .error .notSearchable
    else contentSchema content others

/-- The parameter that a request body makes; none if there is no body. -/
def readBody (body : Value) : Except Fault (Option Param) :=
  if body.isEmpty then .ok none
  else do
    let body ← fieldsOf body
    let content := fieldOr body "content" (.map [])
    let schema ← contentSchema content ["application/json", "multipart/form-data"]
    let schema ← fieldsOf (orEmpty schema)
    let refType ← refName schema
    let made ← makeParam (.text "body") (.text "body") (fieldOr body "required" (.bool false))
      (fieldOr schema "type" (.text "object")) (fieldOr body "description" (.text "")) refType
    return some made

/-! ## Operations -/

/-- The endpoint of an operation. -/
def readOperation (path : Value) (method : String) (shared : Value) (operation : Value) :
    Except Fault Endpoint := do
  let operation ← fieldsOf operation
  let merged ← mergeParams [] (← listed shared)
  let merged ← mergeParams merged (← listed (fieldOr operation "parameters" (.list [])))
  let params ← readParams merged
  let body ← readBody (fieldOrNull operation "requestBody")
  let checked : Checked Endpoint :=
    (fun path summary tags =>
        { method, path, summary, params := params ++ body.toList, tags : Endpoint }) <$>
      (Check.text path).inField "path"
      <*> Fields.optional operation "summary" Check.text ""
      <*> Fields.optional operation "tags" (Check.list Check.text) []
  match checked with
  | .valid endpoint => return endpoint
  | .rejected problems => throw (.rejected problems)

/-- The endpoints of one path: one for every key that is a method in any letter case. -/
def readItem (path shared : Value) : Fields → Except Fault (List Endpoint)
  | [] => .ok []
  | (.text key, operation) :: rest => do
    let method := Text.upper key
    let endpoint ←
      if methods.contains method then some <$> readOperation path method shared operation
      else .ok none
    let endpoints ← readItem path shared rest
    return endpoint.toList ++ endpoints
  | _ => .error .wrongKind

/-- The endpoints of all paths. -/
def readPaths : Fields → Except Fault (List Endpoint)
  | [] => .ok []
  | (path, item) :: rest => do
    let item ← fieldsOf item
    let endpoints ← readItem path (fieldOr item "parameters" (.list [])) item
    let others ← readPaths rest
    return endpoints ++ others

/-- The endpoints of a description, in its order. -/
def endpoints (document : Fields) : Except Fault (List Endpoint) := do
  readPaths (← fieldsOf (orEmpty (fieldOrNull document "paths")))

/-! ## Files -/

/-- Why a file holds no API description that can be read. -/
inductive LoadError where
  | file (error : FileError)
  /-- The document is of no known kind. -/
  | unknownFormat (file : String)
  | fault (fault : Fault)
deriving DecidableEq, Repr

def LoadError.message : LoadError → String
  | .file error => error.message
  | .unknownFormat name => name ++ " is not an OpenAPI or Swagger document"
  | .fault cause => cause.message

/-- The endpoints of the API description in a file, if the file exists. -/
def load (file : String) (content : Option ByteArray) : Except LoadError (List Endpoint) :=
  match loadMapping file content with
  | .error error => .error (.file error)
  | .ok document =>
    if Format.of document = .unknown then .error (.unknownFormat file)
    else
      match endpoints document with
      | .ok endpoints => .ok endpoints
      | .error fault => .error (.fault fault)

end RestCatalog.OpenApi
