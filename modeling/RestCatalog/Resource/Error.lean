import RestCatalog.Call.Basic
import RestCatalog.Creation.Chain

/-!
# What can go wrong with a catalog

The causes for which an operation on a catalog or a resource refuses, and the
message of each.
-/

namespace RestCatalog

inductive CatalogError where
  /-- A text that is no verb. -/
  | unknownVerb (text : String)
  /-- A text that is no mode. -/
  | unknownMode (text : String)
  /-- A resource cannot handle a verb. -/
  | unhandledVerb (verb : Verb) (path : String)
  | noTemplate (path : String)
  | emptyChoice
  /-- Templates were offered that the resource does not have. -/
  | unknownTemplates (path : String) (names : List String)
  /-- A creation was to be found without any step. -/
  | noSteps
  | unknownCall (name : String)
  | unknownResource (path : String)
  /-- A call belongs to no action of the resource. -/
  | foreignCall (call resource : String)
  | chain (error : ChainError)
  /-- A parameter of a repeated name that is not among the parameters it is looked up in. -/
  | unlistedParam
  /-- A call whose path leads to no resource. -/
  | homelessCall (name : String)
deriving DecidableEq, Repr

namespace CatalogError

open Text

/-- The message of an error. -/
def message : CatalogError → String
  | unknownVerb text => quoted text ++ " is not a valid HttpVerb"
  | unknownMode text => quoted text ++ " is not a valid InitMode"
  | unhandledVerb verb path => "cannot handle the action with " ++ verb.text ++ " on " ++ path
  | noTemplate path => "no call template can be built for " ++ path
  | emptyChoice => "Cannot choose from an empty collection"
  | unknownTemplates path names =>
    path ++ " has no template " ++ ", ".intercalate (sortedSet names)
  | noSteps => "cannot manipulate creations with the inputs"
  | unknownCall name => "no action " ++ quoted name ++ " in the catalog"
  | unknownResource path => "no resource " ++ quoted path ++ " in the catalog"
  | foreignCall call resource =>
    "cannot find the action " ++ call ++ " in the resource " ++ resource
  | chain error => error.message
  | unlistedParam => "the parameter is not among those of its call"
  | homelessCall name => "no resource for the call " ++ name

end CatalogError

end RestCatalog
