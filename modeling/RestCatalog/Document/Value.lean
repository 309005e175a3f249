import RestCatalog.Document.Binary64

/-!
# Document values

What a document holds once its notation is read: scalars, lists and mappings in
the order of the text.  Mapping keys are compared by value, so the integer one,
the number `1.0` and true are one key.
-/

namespace RestCatalog.Document

/-- A value of a document.  `moment` is a date with a time of day in its written form;
`foreign` stands for the kinds of values that nothing here reads any further, and tells
whether such a value can be a key. -/
inductive Value where
  | null
  | bool (value : Bool)
  | int (value : Int)
  | float (value : Binary64)
  | text (value : String)
  | date (year month day : Nat)
  | moment (text : String)
  | foreign (isKey : Bool)
  | list (items : List Value)
  | map (entries : List (Value × Value))

namespace Value

instance : Inhabited Value := ⟨.null⟩

/-- The text that a value is. -/
def text? : Value → Option String
  | .text value => some value
  | _ => none

/-- Whether a value can be a key of a mapping. -/
def isKey : Value → Bool
  | .list _ => false
  | .map _ => false
  | .foreign isKey => isKey
  | _ => true

/-- The number that a scalar stands for where keys are compared. -/
def number? : Value → Option (Int ⊕ Binary64)
  | .bool value => some (.inl (if value then 1 else 0))
  | .int value => some (.inl value)
  | .float value =>
    match value.toInt? with
    | some n => some (.inl n)
    | none => some (.inr value)
  | _ => none

/-- Whether two keys are one and the same. -/
def sameKey (a b : Value) : Bool :=
  match a, b with
  | .null, .null => true
  | .text a, .text b => a = b
  | .date y m d, .date y' m' d' => y = y' && m = m' && d = d'
  | .moment a, .moment b => a = b
  | a, b =>
    match a.number?, b.number? with
    | some (.inl m), some (.inl n) => m = n
    | some (.inr x), some (.inr y) => x.sameNumber y
    | _, _ => false

/-- Whether a value counts as absent where a default may take its place. -/
def isEmpty : Value → Bool
  | .null => true
  | .bool value => !value
  | .int value => value = 0
  | .float value => value.isZero
  | .text value => value.isEmpty
  | .list items => items.isEmpty
  | .map entries => entries.isEmpty
  | _ => false

/-- Writes an entry of a mapping: in place if the key is known, else at the end. -/
def insertEntry (key value : Value) : List (Value × Value) → List (Value × Value)
  | [] => [(key, value)]
  | entry :: rest =>
    if entry.1.sameKey key then (entry.1, value) :: rest else entry :: insertEntry key value rest

/-- The value at a text key. -/
def field? (entries : List (Value × Value)) (name : String) : Option Value :=
  (entries.find? fun entry => entry.1.sameKey (.text name)).map (·.2)

/-- The value at a text key of a mapping; none for other values. -/
def get? (value : Value) (name : String) : Option Value :=
  match value with
  | .map entries => field? entries name
  | _ => none

end Value

end RestCatalog.Document
