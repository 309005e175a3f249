/-!
# Modes of reading paths

How much a resource reads from the words of its path: nothing, its tokens with
compound words split, or its tokens as they are.
-/

namespace RestCatalog

inductive InitMode where
  | none
  | withToken
  | withDerivedDependency
  | withDependency
deriving DecidableEq, Repr, Inhabited

namespace InitMode

def all : List InitMode := [.none, .withToken, .withDerivedDependency, .withDependency]

def text : InitMode → String
  | .none => "none"
  | .withToken => "with_token"
  | .withDerivedDependency => "with_derived_dependency"
  | .withDependency => "with_dependency"

def ofText? (text : String) : Option InitMode := all.find? fun mode => mode.text = text

/-- Whether paths are read as tokens at all. -/
def usesTokens (mode : InitMode) : Bool := mode != .none

/-- Whether compound words are split. -/
def splitsWords (mode : InitMode) : Bool := mode != .withDependency

end InitMode

end RestCatalog
