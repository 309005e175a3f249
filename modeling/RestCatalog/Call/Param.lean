import RestCatalog.Path.Token

/-!
# Parameters

A parameter of a call, wherever it is sent.  Within a resource it is known by a
key made of its location, the segment of the path it belongs to and its name.
-/

namespace RestCatalog

/-- A parameter.  `refType` names the schema that the value of a body follows. -/
structure Param where
  name : String
  location : String
  required : Bool := false
  type : String := "string"
  description : String := ""
  refType : Option String := none
deriving DecidableEq, Repr, Inhabited

namespace Param

def isPath (param : Param) : Bool := param.location = "path"

def isBody (param : Param) : Bool := param.location = "body"

/-- The name of a parameter for comparisons that ignore letter case. -/
def lowerName (param : Param) : String := Text.lower param.name

/-- The key of a parameter in a segment. -/
def key (param : Param) (segment : String) : String :=
  if segment.isEmpty then param.location ++ ":" ++ param.name
  else param.location ++ ":" ++ segment ++ segmentSeparator ++ param.name

end Param

end RestCatalog
