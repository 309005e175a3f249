/-!
# Mappings in insertion order

A mapping that remembers the order in which its keys were first written.
Writing a key that is already there replaces its value and keeps its place:
`keys_insert` says so of the keys, `get?_insert_self` and `get?_insert_of_ne` of
what is found afterwards.
-/

namespace RestCatalog

/-- A finite mapping as its list of entries, oldest key first. -/
structure OrderedMap (κ ν : Type) where
  entries : List (κ × ν) := []

namespace OrderedMap

variable {κ ν : Type} [DecidableEq κ]

instance [DecidableEq ν] : DecidableEq (OrderedMap κ ν) := fun a b =>
  match a, b with
  | ⟨xs⟩, ⟨ys⟩ =>
    if h : xs = ys then isTrue (h ▸ rfl) else isFalse fun e => h (congrArg entries e)

instance : Inhabited (OrderedMap κ ν) := ⟨{}⟩

/-- The keys, oldest first. -/
def keys (m : OrderedMap κ ν) : List κ := m.entries.map (·.1)

/-- The values, in the order of their keys. -/
def values (m : OrderedMap κ ν) : List ν := m.entries.map (·.2)

def size (m : OrderedMap κ ν) : Nat := m.entries.length

def isEmpty (m : OrderedMap κ ν) : Bool := m.entries.isEmpty

/-- The value at a key. -/
def get? (m : OrderedMap κ ν) (key : κ) : Option ν :=
  (m.entries.find? fun entry => entry.1 = key).map (·.2)

def contains (m : OrderedMap κ ν) (key : κ) : Bool :=
  m.entries.any fun entry => entry.1 = key

/-- Writes a value: in place if the key is known, else at the end. -/
def insertEntry (key : κ) (value : ν) : List (κ × ν) → List (κ × ν)
  | [] => [(key, value)]
  | entry :: rest =>
    if entry.1 = key then (key, value) :: rest else entry :: insertEntry key value rest

/-- The mapping after writing `value` at `key`. -/
def insert (m : OrderedMap κ ν) (key : κ) (value : ν) : OrderedMap κ ν :=
  ⟨insertEntry key value m.entries⟩

/-- Writes a value only if the key is not there yet. -/
def insertIfNew (m : OrderedMap κ ν) (key : κ) (value : ν) : OrderedMap κ ν :=
  if m.contains key then m else m.insert key value

/-- Changes the value at a key, if there is one. -/
def modify (m : OrderedMap κ ν) (key : κ) (change : ν → ν) : OrderedMap κ ν :=
  ⟨m.entries.map fun entry => if entry.1 = key then (entry.1, change entry.2) else entry⟩

/-- Changes every value. -/
def mapValues (m : OrderedMap κ ν) (change : ν → ν) : OrderedMap κ ν :=
  ⟨m.entries.map fun entry => (entry.1, change entry.2)⟩

/-- Groups values under their keys: keys by first appearance, values in their order. -/
def groupBy (key : ν → κ) (values : List ν) : OrderedMap κ (List ν) :=
  values.foldl
    (fun m value => m.insert (key value) ((m.get? (key value)).getD [] ++ [value])) {}

/-! ## What each operation does to the keys and to a look-up -/

theorem contains_iff {m : OrderedMap κ ν} {key : κ} : m.contains key = true ↔ key ∈ m.keys := by
  simp [contains, keys]

private theorem map_fst_insertEntry (key : κ) (value : ν) (entries : List (κ × ν)) :
    (insertEntry key value entries).map (·.1) =
      if key ∈ entries.map (·.1) then entries.map (·.1) else entries.map (·.1) ++ [key] := by
  induction entries with
  | nil => simp [insertEntry]
  | cons entry rest ih =>
    by_cases hkey : entry.1 = key
    · simp [insertEntry, hkey]
    · have hne : key ≠ entry.1 := fun h => hkey h.symm
      simp only [insertEntry, hkey, if_false, List.map_cons, ih, List.mem_cons, hne, false_or]
      split <;> rfl

/-- A known key keeps its place and a new one goes to the end. -/
theorem keys_insert (m : OrderedMap κ ν) (key : κ) (value : ν) :
    (m.insert key value).keys = if key ∈ m.keys then m.keys else m.keys ++ [key] :=
  map_fst_insertEntry key value m.entries

@[simp]
theorem get?_insert_self (m : OrderedMap κ ν) (key : κ) (value : ν) :
    (m.insert key value).get? key = some value := by
  have hfind : ∀ entries : List (κ × ν),
      ((insertEntry key value entries).find? fun entry => entry.1 = key).map (·.2) =
        some value := by
    intro entries
    induction entries with
    | nil => simp [insertEntry]
    | cons entry rest ih =>
      by_cases hkey : entry.1 = key
      · simp [insertEntry, hkey]
      · simpa [insertEntry, hkey] using ih
  exact hfind m.entries

/-- Writing a key changes no other one. -/
theorem get?_insert_of_ne (m : OrderedMap κ ν) {key other : κ} (value : ν) (hne : other ≠ key) :
    (m.insert key value).get? other = m.get? other := by
  have hfind : ∀ entries : List (κ × ν),
      (insertEntry key value entries).find? (fun entry => entry.1 = other) =
        entries.find? fun entry => entry.1 = other := by
    intro entries
    induction entries with
    | nil => simp [insertEntry, hne.symm]
    | cons entry rest ih =>
      by_cases hkey : entry.1 = key
      · have hother : ¬ entry.1 = other := fun h => hne (h.symm.trans hkey)
        simp [insertEntry, hkey, hne.symm]
      · simp only [insertEntry, hkey, if_false, List.find?_cons, ih]
  exact congrArg (Option.map (·.2)) (hfind m.entries)

omit [DecidableEq κ] in
@[simp]
theorem keys_mapValues (m : OrderedMap κ ν) (change : ν → ν) :
    (m.mapValues change).keys = m.keys := by
  simp [mapValues, keys]

omit [DecidableEq κ] in
@[simp]
theorem values_mapValues (m : OrderedMap κ ν) (change : ν → ν) :
    (m.mapValues change).values = m.values.map change := by
  simp [mapValues, values]

@[simp]
theorem keys_modify (m : OrderedMap κ ν) (key : κ) (change : ν → ν) :
    (m.modify key change).keys = m.keys := by
  simp only [modify, keys, List.map_map]
  refine List.map_congr_left fun entry _ => ?_
  simp only [Function.comp]
  split <;> rfl

end OrderedMap

end RestCatalog
