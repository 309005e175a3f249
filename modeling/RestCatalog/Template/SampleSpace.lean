import RestCatalog.Template.Basic

/-!
# The sample space of a resource

Which templates make sense follows from the verbs that a resource owns, and from
what can create an instance of it: its own POST, or on a path with variables a
POST in the ancestry or the insertion of rows.
-/

namespace RestCatalog

/-- The verbs that a resource owns, and whether a POST is at hand here or in the ancestry. -/
structure VerbInventory where
  post : Bool := false
  get : Bool := false
  put : Bool := false
  patch : Bool := false
  delete : Bool := false
  postInAncestry : Bool := false
deriving DecidableEq, Repr

namespace VerbInventory

def owns (inventory : VerbInventory) : Verb → Bool
  | .post => inventory.post
  | .get => inventory.get
  | .put => inventory.put
  | .patch => inventory.patch
  | .delete => inventory.delete
  | _ => false

/-- Enters a verb; none if resources do not handle it. -/
def add? (inventory : VerbInventory) : Verb → Option VerbInventory
  | .post => some { inventory with post := true }
  | .get => some { inventory with get := true }
  | .put => some { inventory with put := true }
  | .patch => some { inventory with patch := true }
  | .delete => some { inventory with delete := true }
  | _ => none

/-- All slots: the handled verbs in their order, then the ancestry. -/
def slots (inventory : VerbInventory) : List Bool :=
  Verb.handled.map inventory.owns ++ [inventory.postInAncestry]

/-- Whether any slot is set. -/
def any (inventory : VerbInventory) : Bool := inventory.slots.any id

/-- Whether a verb other than POST is owned. -/
def hasOtherThanPost (inventory : VerbInventory) : Bool :=
  inventory.get || inventory.put || inventory.patch || inventory.delete

/-- Whether something can create the resource. -/
def creatable (inventory : VerbInventory) (hasVariables withRows : Bool) : Bool :=
  inventory.post || (hasVariables && (inventory.postInAncestry || withRows))

/-- The combinations that make sense, each with its independence. -/
def combinations (inventory : VerbInventory) (hasVariables withRows : Bool) :
    List (List Verb × Bool) :=
  let creatable := inventory.creatable hasVariables withRows
  let owned := [Verb.get, .put, .patch, .delete].filter inventory.owns
  (if inventory.post then
      ([.post], !hasVariables) :: if hasVariables then [([.post, .post], false)] else []
    else []) ++
  (owned.flatMap fun verb =>
    ([verb], !hasVariables) :: if creatable then [([.post, verb], false)] else []) ++
  if creatable && owned.contains .delete then
    ([Verb.put, .patch].filter owned.contains).map fun verb => ([.post, verb, .delete], false)
  else []

/-- The templates of the combinations, in order. -/
def sampleSpace (inventory : VerbInventory) (hasVariables withRows : Bool) : Templates :=
  (inventory.combinations hasVariables withRows).foldl
    (fun templates combination =>
      templates.insertIfNew (Template.format combination.1)
        (.fresh combination.1 combination.2)) {}

end VerbInventory

end RestCatalog
