import RestCatalog.OrderedMap
import RestCatalog.Table.Match

/-!
# Tables related to a resource

A resource is related to the tables that its instances live in.  A relation is
confirmed once a row was seen, derived as long as names alone speak for it, and
each derived table keeps its evidence without repetition.
-/

namespace RestCatalog

/-- The tables of one resource. -/
structure TableRelation where
  /-- Tables that were seen at work, in order of confirmation. -/
  confirmed : List String := []
  /-- Tables that names speak for, with the evidence. -/
  derived : OrderedMap String (List TableMatch) := {}
  /-- The tables that the values of a parameter come from. -/
  forParams : OrderedMap String (List String) := {}
deriving DecidableEq

/-- Adds an element at the end of a list that does not hold it yet. -/
def addNew {α : Type} [DecidableEq α] (items : List α) (item : α) : List α :=
  if item ∈ items then items else items ++ [item]

namespace TableRelation

def confirm (relation : TableRelation) (table : String) : TableRelation :=
  { relation with confirmed := addNew relation.confirmed table }

def derive (relation : TableRelation) (table : String) (evidence : TableMatch) : TableRelation :=
  { relation with
    derived := relation.derived.insert table
      (addNew ((relation.derived.get? table).getD []) evidence) }

def relateParam (relation : TableRelation) (key table : String) : TableRelation :=
  { relation with
    forParams := relation.forParams.insert key
      (addNew ((relation.forParams.get? key).getD []) table) }

def hasRelation (relation : TableRelation) : Bool :=
  !relation.confirmed.isEmpty || !relation.derived.isEmpty || !relation.forParams.isEmpty

/-- The tables that evidence names. -/
def derivedTables (relation : TableRelation) : List String :=
  (relation.derived.values.flatMap fun found => found.map (·.table)).eraseDups

/-- Where rows can be inserted to create an instance: the confirmed tables, or the derived
ones as long as none is confirmed. -/
def insertionPoints (relation : TableRelation) : List String :=
  if relation.confirmed.isEmpty then relation.derived.keys else relation.confirmed

end TableRelation

end RestCatalog
