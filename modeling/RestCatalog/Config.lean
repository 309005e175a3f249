import RestCatalog.InitMode

/-!
# Configuration
-/

namespace RestCatalog

/-- How a catalog is set up and sampled. -/
structure Config where
  initMode : InitMode := .withToken
  /-- Whether rows can be inserted to create resources. -/
  withRows : Bool := false
  /-- How many calls a sampled sequence may have. -/
  maxTestSize : Nat := 10
  maxTestSize_pos : 1 ≤ maxTestSize := by exact Nat.le_add_left 1 _
  seed : Option Int := none
  /-- Whether the least visited template is selected instead of any. -/
  chooseLessVisited : Bool := true
  /-- The tables that resources may live in. -/
  tables : List String := []
deriving DecidableEq

/-- The configuration that nothing is said about. -/
def Config.standard : Config := {}

instance : Inhabited Config := ⟨.standard⟩

end RestCatalog
