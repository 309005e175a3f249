import Mathlib.Data.List.Induction
import Mathlib.Data.List.Nodup
import RestCatalog.OrderedMap

/-!
# Mappings whose keys are distinct

A mapping that is built by writing never has a key twice (`nodup_keys_insert`), and
then its entries and its look-up say the same (`get?_eq_some_iff`).  Writing only
ever lengthens the list of keys (`keys_prefix_insert`).  In a mapping of two parts a key is
looked up and written in the second part if the first one does not have it.

There are two larger constructions.  Grouping has the keys of the values, in the
order of first appearance (`keys_groupBy`), and under each key the values that
have it, in their order (`get?_groupBy`).  Writing the values under their keys has the same
keys and leaves the last value with each (`values_lastBy`).
-/

namespace RestCatalog

/-- Values are only moved when those with one key after the other are listed. -/
theorem perm_flatMap_filter {κ ν : Type} [DecidableEq κ] (keyOf : ν → κ) {keys : List κ}
    (hnodup : keys.Nodup) {values : List ν} (hkeys : ∀ value ∈ values, keyOf value ∈ keys) :
    (keys.flatMap fun key => values.filter fun value => keyOf value = key).Perm values := by
  induction keys generalizing values with
  | nil =>
      have hnone : values = [] := List.eq_nil_iff_forall_not_mem.mpr fun value hvalue => by
        simpa using hkeys value hvalue
      rw [hnone, List.flatMap_nil]
  | cons key rest ih =>
      obtain ⟨hkey, hrest⟩ := List.nodup_cons.mp hnodup
      have hothers : ∀ value ∈ values.filter (fun value => !decide (keyOf value = key)),
          keyOf value ∈ rest := by
        intro value hvalue
        obtain ⟨hvalue, hne⟩ := List.mem_filter.mp hvalue
        exact (List.mem_cons.mp (hkeys value hvalue)).resolve_left (by simpa using hne)
      -- the values with the first key have none of the other keys
      have hsame : (rest.flatMap fun other => values.filter fun value => keyOf value = other) =
          rest.flatMap fun other =>
            (values.filter fun value => !decide (keyOf value = key)).filter
              fun value => keyOf value = other := by
        refine List.flatMap_congr fun other hother => ?_
        rw [List.filter_filter]
        refine List.filter_congr fun value _ => ?_
        by_cases hvalue : keyOf value = other
        · have hne : other ≠ key := fun h => hkey (h ▸ hother)
          simp [hvalue, hne]
        · simp [hvalue]
      rw [List.flatMap_cons, hsame]
      exact ((ih hrest hothers).append_left _).trans (List.filter_append_perm _ values)

/-- Keeping first appearances leaves no repetition. -/
theorem nodup_eraseDups {α : Type} [DecidableEq α] : ∀ items : List α, items.eraseDups.Nodup
  | [] => by simp
  | first :: rest => by
      have hshorter : (rest.filter fun item => !item == first).length < rest.length + 1 :=
        Nat.lt_succ_of_le (List.length_filter_le _ _)
      rw [List.eraseDups_cons, List.nodup_cons, List.mem_eraseDups, List.mem_filter]
      exact ⟨by simp, nodup_eraseDups _⟩
termination_by items => items.length

/-- One more item is kept unless it is there already. -/
theorem eraseDups_concat {α : Type} [DecidableEq α] (items : List α) (item : α) :
    (items ++ [item]).eraseDups =
      if item ∈ items then items.eraseDups else items.eraseDups ++ [item] := by
  rw [List.eraseDups_append, List.cons_removeAll]
  by_cases hknown : item ∈ items
  · simp [hknown]
  · simp [hknown, List.eraseDups_cons]

/-- Keeping first appearances commutes with a partial renaming that merges nothing. -/
theorem filterMap_eraseDups {α β : Type} [DecidableEq α] [DecidableEq β] {rename : α → Option β}
    (hmerges : ∀ item other name, rename item = some name → rename other = some name → item = other)
    (items : List α) :
    items.eraseDups.filterMap rename = (items.filterMap rename).eraseDups := by
  induction items using List.reverseRecOn with
  | nil => rfl
  | append_singleton items item ih =>
      rw [eraseDups_concat, List.filterMap_append]
      cases hname : rename item with
      | none => split <;> simp [ih, hname]
      | some name =>
          have hknown : item ∈ items ↔ name ∈ items.filterMap rename := by
            rw [List.mem_filterMap]
            constructor
            · exact fun hmem => ⟨item, hmem, hname⟩
            · rintro ⟨other, hother, hsame⟩
              rwa [hmerges item other name hname hsame]
          rw [List.filterMap_cons_some hname, List.filterMap_nil, eraseDups_concat,
            ← if_congr hknown rfl rfl]
          split
          · exact ih
          · rw [List.filterMap_append, ih, List.filterMap_cons_some hname, List.filterMap_nil]

namespace OrderedMap

variable {κ ν : Type} [DecidableEq κ] {m : OrderedMap κ ν} {key : κ} {value : ν}

theorem mem_entries_of_get? (hget : m.get? key = some value) : (key, value) ∈ m.entries := by
  unfold get? at hget
  obtain ⟨entry, hfind, rfl⟩ := Option.map_eq_some_iff.mp hget
  have hkey : entry.1 = key := by simpa using List.find?_some hfind
  rw [← hkey]
  exact List.mem_of_find?_eq_some hfind

/-- With distinct keys an entry is what the look-up finds. -/
theorem get?_eq_some_iff (hnodup : m.keys.Nodup) :
    m.get? key = some value ↔ (key, value) ∈ m.entries := by
  refine ⟨mem_entries_of_get?, ?_⟩
  intro hmem
  unfold get?
  obtain ⟨entry, hentry⟩ : ∃ entry, m.entries.find? (fun entry => entry.1 = key) = some entry := by
    rw [← Option.isSome_iff_exists, List.find?_isSome]
    exact ⟨(key, value), hmem, by simp⟩
  have hkey : entry.1 = key := by simpa using List.find?_some hentry
  have hsame : entry = (key, value) :=
    List.inj_on_of_nodup_map hnodup (List.mem_of_find?_eq_some hentry) hmem hkey
  rw [hentry, hsame, Option.map_some]

theorem get?_eq_none_iff : m.get? key = none ↔ key ∉ m.keys := by
  unfold get? keys
  rw [Option.map_eq_none_iff, List.find?_eq_none, List.mem_map]
  simp only [decide_eq_true_eq, not_exists, not_and]

theorem mem_keys_iff : key ∈ m.keys ↔ ∃ value, m.get? key = some value := by
  rw [← Option.isSome_iff_exists, ← not_iff_not, ← get?_eq_none_iff, Option.not_isSome_iff_eq_none]

theorem get?_insert (m : OrderedMap κ ν) (key other : κ) (value : ν) :
    (m.insert key value).get? other = if other = key then some value else m.get? other := by
  split
  case isTrue h => rw [h, get?_insert_self]
  case isFalse h => exact get?_insert_of_ne m value h

/-! ## Writing keeps the keys -/

theorem keys_prefix_insert (m : OrderedMap κ ν) (key : κ) (value : ν) :
    m.keys <+: (m.insert key value).keys := by
  rw [keys_insert]
  split
  · exact List.prefix_refl _
  · exact List.prefix_append _ _

theorem mem_keys_insert {other : κ} :
    other ∈ (m.insert key value).keys ↔ other ∈ m.keys ∨ other = key := by
  rw [keys_insert]
  split
  case isTrue hknown => exact ⟨.inl, fun hother => hother.elim id fun hsame => hsame ▸ hknown⟩
  case isFalse => rw [List.mem_append, List.mem_singleton]

theorem nodup_keys_insert (hnodup : m.keys.Nodup) (key : κ) (value : ν) :
    (m.insert key value).keys.Nodup := by
  rw [keys_insert]
  split
  case isTrue => exact hnodup
  case isFalse hnew =>
    rw [List.nodup_append]
    refine ⟨hnodup, List.nodup_singleton _, ?_⟩
    rintro a ha b hb rfl
    rw [List.mem_singleton.mp hb] at ha
    exact hnew ha

/-- Writing what is there already changes nothing. -/
theorem insert_of_get? (hget : m.get? key = some value) : m.insert key value = m := by
  have hentries : ∀ entries : List (κ × ν),
      (entries.find? fun entry => entry.1 = key).map (·.2) = some value →
        insertEntry key value entries = entries := by
    intro entries
    induction entries with
    | nil => nofun
    | cons entry rest ih =>
        intro hfound
        unfold insertEntry
        by_cases hkey : entry.1 = key
        · obtain rfl : entry.2 = value := by simpa [hkey] using hfound
          rw [if_pos hkey, ← hkey]
        · rw [if_neg hkey, ih (by simpa [hkey] using hfound)]
  exact congrArg OrderedMap.mk (hentries m.entries hget)

/-- What a mapping holds after writing is the new entry or one of the old ones. -/
theorem forall_mem_insert {P : κ × ν → Prop} (hold : ∀ entry ∈ m.entries, P entry)
    (hnew : P (key, value)) : ∀ entry ∈ (m.insert key value).entries, P entry := by
  have hentries : ∀ entries : List (κ × ν), (∀ entry ∈ entries, P entry) →
      ∀ entry ∈ insertEntry key value entries, P entry := by
    intro entries
    induction entries with
    | nil => simpa [insertEntry] using hnew
    | cons entry rest ih =>
        intro hold
        obtain ⟨hentry, hrest⟩ := List.forall_mem_cons.mp hold
        unfold insertEntry
        split
        · exact List.forall_mem_cons.mpr ⟨hnew, hrest⟩
        · exact List.forall_mem_cons.mpr ⟨hentry, ih hrest⟩
  exact hentries m.entries hold

/-! ## Mappings in two parts -/

/-- A key that the first part does not have is looked up in the second. -/
theorem get?_append_of_new {n : OrderedMap κ ν} (hnew : key ∉ m.keys) :
    OrderedMap.get? ⟨m.entries ++ n.entries⟩ key = n.get? key := by
  have hnone : m.entries.find? (fun entry => entry.1 = key) = none := by
    rw [List.find?_eq_none]
    rintro entry hentry hkey
    exact hnew (List.mem_map.mpr ⟨entry, hentry, of_decide_eq_true hkey⟩)
  unfold get?
  rw [List.find?_append, hnone, Option.none_or]

/-- A key that the first part does not have is written in the second. -/
theorem insert_append_of_new {n : OrderedMap κ ν} (hnew : key ∉ m.keys) (value : ν) :
    OrderedMap.insert ⟨m.entries ++ n.entries⟩ key value =
      ⟨m.entries ++ (n.insert key value).entries⟩ := by
  have hentries : ∀ entries : List (κ × ν), key ∉ entries.map (·.1) →
      insertEntry key value (entries ++ n.entries) =
        entries ++ insertEntry key value n.entries := by
    intro entries
    induction entries with
    | nil => simp
    | cons entry rest ih =>
        intro hnew
        rw [List.map_cons, List.mem_cons, not_or] at hnew
        rw [List.cons_append, insertEntry, if_neg fun hkey => hnew.1 hkey.symm, ih hnew.2,
          List.cons_append]
  exact congrArg OrderedMap.mk (hentries m.entries hnew)

/-- A new key goes to the end. -/
theorem entries_insert_of_new (hnew : key ∉ m.keys) (value : ν) :
    (m.insert key value).entries = m.entries ++ [(key, value)] := by
  have hinsert := insert_append_of_new (n := {}) hnew value
  rw [List.append_nil] at hinsert
  exact congrArg entries hinsert

/-! ## Writing one value after the other -/

/-- Writing new keys only adds an entry for each. -/
theorem entries_foldl_insertIfNew {α : Type} (keyOf : α → κ) (valueOf : α → ν) (items : List α)
    (m : OrderedMap κ ν) (hnodup : (m.keys ++ items.map keyOf).Nodup) :
    (items.foldl (fun m item => m.insertIfNew (keyOf item) (valueOf item)) m).entries =
      m.entries ++ items.map fun item => (keyOf item, valueOf item) := by
  induction items generalizing m with
  | nil => simp
  | cons item rest ih =>
      have hnew : keyOf item ∉ m.keys := by
        intro hknown
        exact (List.nodup_append.mp hnodup).2.2 _ hknown _ List.mem_cons_self rfl
      have hstep : m.insertIfNew (keyOf item) (valueOf item) =
          m.insert (keyOf item) (valueOf item) := by
        unfold insertIfNew
        rw [if_neg fun hknown => hnew (contains_iff.mp hknown)]
      have hkeys : (m.insert (keyOf item) (valueOf item)).keys = m.keys ++ [keyOf item] := by
        rw [keys_insert, if_neg hnew]
      rw [List.foldl_cons, hstep, ih _ (by rw [hkeys]; simpa using hnodup),
        entries_insert_of_new hnew]
      simp

omit [DecidableEq κ] in
theorem length_keys (m : OrderedMap κ ν) : m.keys.length = m.size :=
  List.length_map _

/-- Writing adds at most one entry, and just when the key is new. -/
theorem size_insert (m : OrderedMap κ ν) (key : κ) (value : ν) :
    (m.insert key value).size = if key ∈ m.keys then m.size else m.size + 1 := by
  rw [← length_keys, ← length_keys, keys_insert]
  split
  · rfl
  · exact List.length_append

/-- Values that are written one after the other, under keys that may depend on what is there
already, are all kept if the mapping grows by as many entries. -/
theorem values_foldl_insert (keyOf : OrderedMap κ ν → ν → κ) (values : List ν)
    (m : OrderedMap κ ν) :
    (values.foldl (fun m value => m.insert (keyOf m value) value) m).size ≤
        m.size + values.length ∧
      ((values.foldl (fun m value => m.insert (keyOf m value) value) m).size =
          m.size + values.length →
        (values.foldl (fun m value => m.insert (keyOf m value) value) m).values =
          m.values ++ values) := by
  induction values generalizing m with
  | nil => exact ⟨Nat.le_refl _, fun _ => (List.append_nil _).symm⟩
  | cons value rest ih =>
      obtain ⟨hle, hvalues⟩ := ih (m.insert (keyOf m value) value)
      have hinsert := size_insert m (keyOf m value) value
      rw [List.foldl_cons, List.length_cons]
      by_cases hknown : keyOf m value ∈ m.keys
      · -- a key that is there already leaves the mapping too small
        rw [if_pos hknown] at hinsert
        exact ⟨by omega, fun hsize => by omega⟩
      · rw [if_neg hknown] at hinsert
        refine ⟨by omega, fun hsize => ?_⟩
        rw [hvalues (by omega), values, entries_insert_of_new hknown, List.map_append,
          List.map_singleton, List.append_assoc, List.singleton_append]
        rfl

/-! ## Changing values keeps the keys -/

/-- With distinct keys the values are what is found under them. -/
theorem values_eq_filterMap (hnodup : m.keys.Nodup) : m.values = m.keys.filterMap m.get? := by
  unfold values keys
  rw [List.filterMap_map, ← List.filterMap_eq_map]
  refine List.filterMap_congr fun entry hentry => ?_
  exact ((get?_eq_some_iff hnodup).mpr hentry).symm

omit [DecidableEq κ] in
theorem mapValues_mapValues (m : OrderedMap κ ν) (first later : ν → ν) :
    (m.mapValues first).mapValues later = m.mapValues fun value => later (first value) := by
  unfold mapValues
  rw [List.map_map]
  rfl

omit [DecidableEq κ] in
theorem mapValues_congr {change other : ν → ν}
    (hsame : ∀ value ∈ m.values, change value = other value) :
    m.mapValues change = m.mapValues other := by
  unfold mapValues
  refine congrArg OrderedMap.mk (List.map_congr_left fun entry hentry => ?_)
  rw [hsame entry.2 (List.mem_map_of_mem hentry)]

omit [DecidableEq κ] in
theorem mapValues_id (m : OrderedMap κ ν) : m.mapValues id = m := by
  unfold mapValues
  exact congrArg OrderedMap.mk (List.map_id _)

theorem get?_mapValues (m : OrderedMap κ ν) (change : ν → ν) (key : κ) :
    (m.mapValues change).get? key = (m.get? key).map change := by
  unfold mapValues get?
  rw [List.find?_map, Option.map_map, Option.map_map]
  rfl

theorem get?_modify (m : OrderedMap κ ν) (key other : κ) (change : ν → ν) :
    (m.modify key change).get? other =
      if other = key then (m.get? other).map change else m.get? other := by
  have hkeys : ((fun entry : κ × ν => decide (entry.1 = other)) ∘
      fun entry => if entry.1 = key then (entry.1, change entry.2) else entry) =
        fun entry => decide (entry.1 = other) := by
    funext entry
    simp only [Function.comp]
    split <;> rfl
  unfold modify get?
  rw [List.find?_map, hkeys]
  cases hfound : m.entries.find? fun entry => decide (entry.1 = other) with
  | none => simp
  | some entry =>
      have hkey : entry.1 = other := by simpa using List.find?_some hfound
      by_cases hother : other = key <;> simp [hkey, hother]

/-- Changing the value at a key changes the one entry that has it. -/
theorem entries_modify {before after : List (κ × ν)} (hnodup : m.keys.Nodup)
    (hentries : m.entries = before ++ (key, value) :: after) (change : ν → ν) :
    (m.modify key change).entries = before ++ (key, change value) :: after := by
  have hothers : ∀ entry ∈ before ++ after, entry.1 ≠ key := by
    unfold keys at hnodup
    rw [hentries, (List.perm_middle.map _).nodup_iff, List.map_cons, List.nodup_cons] at hnodup
    rintro entry hentry rfl
    exact hnodup.1 (List.mem_map.mpr ⟨entry, hentry, rfl⟩)
  have hkept : ∀ entries : List (κ × ν), (∀ entry ∈ entries, entry.1 ≠ key) →
      entries.map (fun entry => if entry.1 = key then (entry.1, change entry.2) else entry) =
        entries := by
    intro entries hne
    calc entries.map (fun entry => if entry.1 = key then (entry.1, change entry.2) else entry)
        = entries.map id := List.map_congr_left fun entry hentry => if_neg (hne entry hentry)
      _ = entries := List.map_id _
  unfold modify
  rw [hentries, List.map_append, List.map_cons,
    hkept before fun entry hentry => hothers entry (List.mem_append_left _ hentry),
    hkept after fun entry hentry => hothers entry (List.mem_append_right _ hentry)]
  simp

/-! ## Grouping -/

variable (keyOf : ν → κ)

private theorem groupBy_append (values : List ν) (value : ν) :
    groupBy keyOf (values ++ [value]) =
      (groupBy keyOf values).insert (keyOf value)
        (((groupBy keyOf values).get? (keyOf value)).getD [] ++ [value]) := by
  unfold groupBy
  rw [List.foldl_append, List.foldl_cons, List.foldl_nil]

/-- The groups stand in the order in which their keys first appear. -/
theorem keys_groupBy (values : List ν) :
    (groupBy keyOf values).keys = (values.map keyOf).eraseDups := by
  induction values using List.reverseRecOn with
  | nil => rfl
  | append_singleton values value ih =>
      rw [groupBy_append, keys_insert, ih, List.map_append, List.map_singleton, eraseDups_concat]
      simp only [List.mem_eraseDups]

theorem nodup_keys_groupBy (values : List ν) : (groupBy keyOf values).keys.Nodup := by
  rw [keys_groupBy]
  exact nodup_eraseDups _

/-- Under a key stand the values that have it. -/
theorem get?_groupBy (values : List ν) (key : κ) :
    (groupBy keyOf values).get? key =
      if key ∈ values.map keyOf then some (values.filter fun value => keyOf value = key)
      else none := by
  induction values using List.reverseRecOn with
  | nil => rfl
  | append_singleton values value ih =>
      rw [groupBy_append, get?_insert]
      by_cases hkey : key = keyOf value
      · subst hkey
        have hsame : ((groupBy keyOf values).get? (keyOf value)).getD [] =
            values.filter fun other => keyOf other = keyOf value := by
          rw [ih]
          split
          case isTrue => rfl
          case isFalse hnew =>
            -- nothing has the key yet, so there is nothing to keep
            refine (List.filter_eq_nil_iff.mpr ?_).symm
            intro other hother hsame
            exact hnew (List.mem_map.mpr ⟨other, hother, by simpa using hsame⟩)
        simp [hsame]
      · have hkey' : ¬ keyOf value = key := fun h => hkey h.symm
        simp [hkey, hkey', ih]

/-- A group holds exactly the values with its key, and is not empty. -/
theorem mem_entries_groupBy {values : List ν} {key : κ} {members : List ν} :
    (key, members) ∈ (groupBy keyOf values).entries ↔
      key ∈ values.map keyOf ∧ members = values.filter fun value => keyOf value = key := by
  rw [← get?_eq_some_iff (nodup_keys_groupBy keyOf values), get?_groupBy]
  split <;> simp_all [eq_comm]

/-! ## The last one with a key -/

/-- Values written under their keys, one after the other. -/
def lastBy (values : List ν) : OrderedMap κ ν :=
  values.foldl (fun m value => m.insert (keyOf value) value) {}

theorem lastBy_concat (values : List ν) (value : ν) :
    lastBy keyOf (values ++ [value]) = (lastBy keyOf values).insert (keyOf value) value := by
  unfold lastBy
  rw [List.foldl_append, List.foldl_cons, List.foldl_nil]

/-- The keys stand in the order in which they first appear. -/
theorem keys_lastBy (values : List ν) :
    (lastBy keyOf values).keys = (values.map keyOf).eraseDups := by
  induction values using List.reverseRecOn with
  | nil => rfl
  | append_singleton values value ih =>
      rw [lastBy_concat, keys_insert, ih, List.map_append, List.map_singleton, eraseDups_concat]
      simp only [List.mem_eraseDups]

/-- Under a key stands the last value that has it. -/
theorem get?_lastBy (values : List ν) (key : κ) :
    (lastBy keyOf values).get? key =
      (values.filter fun value => keyOf value = key).getLast? := by
  induction values using List.reverseRecOn with
  | nil => rfl
  | append_singleton values value ih =>
      rw [lastBy_concat, get?_insert, List.filter_append]
      by_cases hkey : key = keyOf value
      · subst hkey
        simp
      · have hkey' : ¬ keyOf value = key := fun h => hkey h.symm
        simp [hkey, hkey', ih]

/-- The values that are left: for each key the last one that has it. -/
theorem values_lastBy (values : List ν) :
    (lastBy keyOf values).values = (values.map keyOf).eraseDups.filterMap fun key =>
      (values.filter fun value => keyOf value = key).getLast? := by
  have hnodup : (lastBy keyOf values).keys.Nodup := by
    rw [keys_lastBy]
    exact nodup_eraseDups _
  rw [values_eq_filterMap hnodup, keys_lastBy]
  exact List.filterMap_congr fun key _ => get?_lastBy keyOf values key

end OrderedMap

end RestCatalog
