import RestCatalog.Document.Yaml.Node
import RestCatalog.Document.Yaml.Scalar
import RestCatalog.Document.Yaml.Token.Lexer

/-!
# The value of a YAML text

A node means a value by its tag, or by its form if it has none.  A mapping takes over
the entries of the mappings under its `<<` keys: they stand in front of its own, so
that an own entry of the same key prevails, and of several mappings the first one
prevails.
-/

namespace RestCatalog.Document.Yaml

def standardTag : String := "tag:yaml.org,2002:"

/-- The kind of scalars that a tag asks for. -/
def ScalarKind.ofTag? (tag : String) : Option ScalarKind :=
  [("null", ScalarKind.null), ("bool", .bool), ("int", .int), ("float", .float),
    ("timestamp", .timestamp), ("str", .text)].findSome? fun entry =>
      if tag = standardTag ++ entry.1 then some entry.2 else none

/-- The kind of a scalar node. -/
def scalarKind (text : String) (isPlain : Bool) : ScalarKind :=
  if isPlain then .ofText text else .text

/-- The value of a scalar node. -/
def scalarValue (tag : Tag) (text : String) (isPlain : Bool) : Except Fault Value :=
  match tag with
  | none => (scalarKind text isPlain).value text
  | some tag =>
    match ScalarKind.ofTag? tag with
    | some kind => kind.value text
    | none => if tag = standardTag ++ "binary" then .ok (.foreign true) else .error .malformed

/-- The mark of a key under which other mappings are taken over. -/
def Node.isMergeKey : Node → Bool
  | .scalar none text isPlain => scalarKind text isPlain = .merge
  | .scalar (some tag) _ _ => tag = standardTag ++ "merge"
  | _ => false

/-- The mark of a default value, which as a key is an ordinary text. -/
def Node.defaultKey? : Node → Option String
  | .scalar none text isPlain => if scalarKind text isPlain = .default then some text else none
  | .scalar (some tag) text _ => if tag = standardTag ++ "value" then some text else none
  | _ => none

/-- The mapping that entries make; every key has to be one that can be looked up. -/
def mappingOf : List (Value × Value) → List (Value × Value) →
    Except Fault (List (Value × Value))
  | done, [] => .ok done
  | done, (key, value) :: rest =>
    if key.isKey then mappingOf (Value.insertEntry key value done) rest else .error .malformed

/-- A sequence, a set or a list of pairs, by its tag. -/
def sequenceValue (tag : Tag) (items : List Value) : Except Fault Value :=
  if tag.isNone || tag = some (standardTag ++ "seq") then .ok (.list items)
  else if tag = some (standardTag ++ "omap") || tag = some (standardTag ++ "pairs") then
    if items.all fun item => match item with
      | .map [_] => true
      | _ => false
    then .ok (.list (items.map fun _ => .foreign true))
    else .error .malformed
  else .error .malformed

/-- A mapping or a set, by its tag. -/
def mappingValue (tag : Tag) (entries : List (Value × Value)) : Except Fault Value := do
  let entries ← mappingOf [] entries
  if tag.isNone || tag = some (standardTag ++ "map") then return .map entries
  else if tag = some (standardTag ++ "set") then return .foreign false
  else throw .malformed

mutual

/-- The value of a node. -/
def Node.value : Node → Except Fault Value
  | .scalar tag text isPlain => scalarValue tag text isPlain
  | .sequence tag items => do sequenceValue tag (← Node.values items)
  | .mapping tag entries => do
    let (merged, own) ← Node.entryValues entries
    mappingValue tag (merged ++ own)

def Node.values : List Node → Except Fault (List Value)
  | [] => .ok []
  | item :: rest => do
    let value ← item.value
    return value :: (← Node.values rest)

/-- The entries that a mapping takes over, and its own ones. -/
def Node.entryValues :
    List (Node × Node) → Except Fault (List (Value × Value) × List (Value × Value))
  | [] => .ok ([], [])
  | (key, value) :: rest => do
    if key.isMergeKey then
      let here ← value.mergedEntries
      let (merged, own) ← Node.entryValues rest
      return (here ++ merged, own)
    else
      let keyValue ← match key.defaultKey? with
        | some text => pure (.text text)
        | none => key.value
      let entry := (keyValue, ← value.value)
      let (merged, own) ← Node.entryValues rest
      return (merged, entry :: own)

/-- The entries of the mapping, or of the mappings, under a merge key. -/
def Node.mergedEntries : Node → Except Fault (List (Value × Value))
  | .scalar .. => .error .malformed
  | .mapping _ entries => do
    let (merged, own) ← Node.entryValues entries
    return merged ++ own
  | .sequence _ items => Node.mergedLists items

/-- The entries of listed mappings, the last one first. -/
def Node.mergedLists : List Node → Except Fault (List (Value × Value))
  | [] => .ok []
  | .mapping _ entries :: rest => do
    let (merged, own) ← Node.entryValues entries
    return (← Node.mergedLists rest) ++ (merged ++ own)
  | _ :: _ => .error .malformed

end

/-- The value that a YAML text writes; an empty text writes nothing. -/
def parse (text : String) : Except Fault Value := do
  match ← Node.ofTokens (← Token.ofText text.toList) with
  | none => return .null
  | some node => node.value

end RestCatalog.Document.Yaml
