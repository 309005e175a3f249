import RestCatalog.Call.Param
import RestCatalog.Call.Verb
import RestCatalog.Text.Case

/-!
# Calls

An endpoint is an entry of a catalog; a call is one use of it in a sequence of
requests.  A call can keep the location that its response announces, and can
fill its path from a location that an earlier call kept.  Calls of one sequence
share the values of path parameters: `bindParams` takes over those of another call
with the same names.
-/

namespace RestCatalog

/-- A method on a path, with its parameters. -/
structure Endpoint where
  method : String
  path : String
  summary : String := ""
  params : List Param := []
  tags : List String := []
deriving DecidableEq, Repr

def Endpoint.name (endpoint : Endpoint) : String := endpoint.method ++ " " ++ endpoint.path

/-- One request of a sequence. -/
structure Call where
  verb : Verb
  path : String
  params : List Param := []
  /-- Whether the location announced by the response is kept. -/
  savesLocation : Bool := false
  /-- The kept location that the path is filled from. -/
  locationId : Option String := none
deriving DecidableEq, Repr, Inhabited

namespace Call

/-- The call of an endpoint; none if its method is no verb. -/
def ofEndpoint? (endpoint : Endpoint) : Option Call :=
  (Verb.ofText? (Text.upper endpoint.method)).map fun verb =>
    { verb, path := endpoint.path, params := endpoint.params }

/-- The path of a call in normal form. -/
def restPath (call : Call) : Path := Path.ofText call.path

def name (call : Call) : String := call.verb.text ++ ":" ++ call.path

/-- The last of the path parameters with a name, letter case apart. -/
def pathParamNamed? (params : List Param) (name : String) : Option Param :=
  (params.filter fun param => param.isPath && param.lowerName = Text.lower name).getLast?

/-- A parameter after taking over those of another call: a path parameter is replaced by the
other's of that name. -/
def boundParam (others : List Param) (param : Param) : Param :=
  if param.isPath then (pathParamNamed? others param.name).getD param else param

/-- A call that shares the path parameters of another one. -/
def bindParams (call : Call) (others : List Param) : Call :=
  { call with params := call.params.map (boundParam others) }

/-- A fresh call after a pattern, to be made in front of `target`: it shares the target's path
parameters and has no part in any hand-over of locations yet. -/
def createdFor (pattern target : Call) : Call :=
  ({ pattern with savesLocation := false, locationId := none } : Call).bindParams target.params

end Call

/-- The insertion of a row into a table. -/
structure Insertion where
  table : String
deriving DecidableEq, Repr

def Insertion.name (insertion : Insertion) : String := "SQL_Insert_" ++ insertion.table

end RestCatalog
