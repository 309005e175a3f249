import Mathlib.Data.Finset.Dedup
import RestCatalog.Proofs.OrderedMap
import RestCatalog.Table.Relation

/-!
# What a table relation gathers

A relation only ever gathers: evidence for tables, and tables for parameters, each once.

* Relating a parameter adds one table to those of the parameter (`mem_relatedTables_relateAll`),
  and one that is related already changes nothing (`relateAll_of_related`).
* Evidence that comes in parts is gathered part by part (`withEvidence_append`), and what came
  before adds nothing (`withEvidence_withEvidence`).

What is gathered in another order is the same up to that order: `TableRelation.Agrees` says so of
two relations.
-/

namespace RestCatalog

/-! ## Adding what is new -/

section

variable {α : Type} [DecidableEq α] {items new : List α} {item other : α}

theorem mem_addNew : other ∈ addNew items item ↔ other ∈ items ∨ other = item := by
  unfold addNew
  by_cases hknown : item ∈ items
  · rw [if_pos hknown]
    constructor
    · exact Or.inl
    · rintro (hmem | rfl)
      · exact hmem
      · exact hknown
  · rw [if_neg hknown, List.mem_append, List.mem_singleton]

theorem addNew_of_mem (hknown : item ∈ items) : addNew items item = items := if_pos hknown

theorem nodup_addNew (hnodup : items.Nodup) (item : α) : (addNew items item).Nodup := by
  unfold addNew
  split
  case isTrue => exact hnodup
  case isFalse hnew => exact List.nodup_append_comm.mp (List.nodup_cons.mpr ⟨hnew, hnodup⟩)

theorem mem_foldl_addNew : other ∈ new.foldl addNew items ↔ other ∈ items ∨ other ∈ new := by
  induction new generalizing items with
  | nil => simp
  | cons item new ih => rw [List.foldl_cons, ih, mem_addNew, List.mem_cons, or_assoc]

theorem nodup_foldl_addNew (hnodup : items.Nodup) (new : List α) :
    (new.foldl addNew items).Nodup := by
  induction new generalizing items with
  | nil => exact hnodup
  | cons item new ih => exact ih (nodup_addNew hnodup item)

/-- What is there already is not added again. -/
theorem foldl_addNew_of_subset (hknown : new ⊆ items) : new.foldl addNew items = items := by
  induction new with
  | nil => rfl
  | cons item new ih =>
      rw [List.foldl_cons, addNew_of_mem (hknown List.mem_cons_self)]
      exact ih fun other hother => hknown (List.mem_cons_of_mem _ hother)

end

namespace TableRelation

variable {relation other : TableRelation} {key table : String} {pairs : List (String × String)}

/-! ## What a relation says -/

/-- The tables that the values of a parameter come from. -/
def relatedTables (relation : TableRelation) (key : String) : List String :=
  (relation.forParams.get? key).getD []

/-- Two relations that differ at most in the order of their tables and parameters. -/
structure Agrees (relation other : TableRelation) : Prop where
  confirmed_eq : relation.confirmed = other.confirmed
  evidence_eq : ∀ table, relation.derived.get? table = other.derived.get? table
  related_eq : ∀ key, (relation.forParams.get? key).map List.toFinset =
    (other.forParams.get? key).map List.toFinset

theorem related_eq_of_mem_iff
    (hkeys : key ∈ relation.forParams.keys ↔ key ∈ other.forParams.keys)
    (hmem : ∀ table, table ∈ relation.relatedTables key ↔ table ∈ other.relatedTables key) :
    (relation.forParams.get? key).map List.toFinset =
      (other.forParams.get? key).map List.toFinset := by
  rw [OrderedMap.mem_keys_iff, OrderedMap.mem_keys_iff] at hkeys
  unfold relatedTables at hmem
  cases hfirst : relation.forParams.get? key with
  | none =>
      cases hsecond : other.forParams.get? key with
      | none => rfl
      | some tables =>
          obtain ⟨tables, hsome⟩ := hkeys.mpr ⟨tables, hsecond⟩
          cases hfirst.symm.trans hsome
  | some tables =>
      obtain ⟨tables', hsecond⟩ := hkeys.mp ⟨tables, hfirst⟩
      rw [hfirst, hsecond] at hmem
      rw [hsecond, Option.map_some, Option.map_some, Option.some_inj]
      ext table
      simpa using hmem table

/-- If evidence is kept for the tables that it names, these are the tables that have some. -/
theorem mem_derivedTables_iff (hnodup : relation.derived.keys.Nodup)
    (hown : ∀ table evidence, relation.derived.get? table = some evidence →
      evidence ≠ [] ∧ ∀ item ∈ evidence, item.table = table) :
    table ∈ relation.derivedTables ↔ table ∈ relation.derived.keys := by
  unfold derivedTables
  rw [List.mem_eraseDups, List.mem_flatMap, OrderedMap.mem_keys_iff]
  constructor
  · rintro ⟨evidence, hevidence, htable⟩
    obtain ⟨item, hitem, rfl⟩ := List.mem_map.mp htable
    obtain ⟨entry, hentry, rfl⟩ := List.mem_map.mp hevidence
    have hget := (OrderedMap.get?_eq_some_iff hnodup).mpr hentry
    rw [(hown entry.1 entry.2 hget).2 item hitem]
    exact ⟨entry.2, hget⟩
  · rintro ⟨evidence, hget⟩
    obtain ⟨hsome, hnamed⟩ := hown table evidence hget
    obtain ⟨item, hitem⟩ := List.exists_mem_of_ne_nil evidence hsome
    refine ⟨evidence, List.mem_map_of_mem (OrderedMap.mem_entries_of_get? hget), ?_⟩
    exact List.mem_map.mpr ⟨item, hitem, hnamed item hitem⟩

/-! ## Relating parameters -/

/-- Relates parameters to tables, one after the other. -/
def relateAll (relation : TableRelation) (pairs : List (String × String)) : TableRelation :=
  pairs.foldl (fun relation pair => relation.relateParam pair.1 pair.2) relation

theorem relateAll_cons (relation : TableRelation) (pair : String × String)
    (pairs : List (String × String)) :
    relation.relateAll (pair :: pairs) = (relation.relateParam pair.1 pair.2).relateAll pairs :=
  rfl

theorem derived_relateAll (relation : TableRelation) (pairs : List (String × String)) :
    (relation.relateAll pairs).derived = relation.derived := by
  induction pairs generalizing relation with
  | nil => rfl
  | cons pair pairs ih => rw [relateAll_cons, ih, relateParam]

theorem confirmed_relateAll (relation : TableRelation) (pairs : List (String × String)) :
    (relation.relateAll pairs).confirmed = relation.confirmed := by
  induction pairs generalizing relation with
  | nil => rfl
  | cons pair pairs ih => rw [relateAll_cons, ih, relateParam]

theorem mem_relatedTables_relateAll :
    table ∈ (relation.relateAll pairs).relatedTables key ↔
      table ∈ relation.relatedTables key ∨ (key, table) ∈ pairs := by
  induction pairs generalizing relation with
  | nil => simp [relateAll]
  | cons pair pairs ih =>
      have hstep : table ∈ (relation.relateParam pair.1 pair.2).relatedTables key ↔
          table ∈ relation.relatedTables key ∨ (key, table) = pair := by
        unfold relateParam relatedTables
        dsimp only
        rw [OrderedMap.get?_insert]
        by_cases hkey : key = pair.1
        · rw [if_pos hkey, Option.getD_some, mem_addNew, ← hkey, Prod.ext_iff]
          simp [hkey]
        · simp [hkey, Prod.ext_iff]
      rw [relateAll_cons, ih, hstep, List.mem_cons, or_assoc]

theorem mem_keys_relateAll :
    key ∈ (relation.relateAll pairs).forParams.keys ↔
      key ∈ relation.forParams.keys ∨ ∃ table, (key, table) ∈ pairs := by
  induction pairs generalizing relation with
  | nil => simp [relateAll]
  | cons pair pairs ih =>
      have hstep : key ∈ (relation.relateParam pair.1 pair.2).forParams.keys ↔
          key ∈ relation.forParams.keys ∨ key = pair.1 := OrderedMap.mem_keys_insert
      rw [relateAll_cons, ih, hstep, or_assoc]
      refine or_congr Iff.rfl ?_
      constructor
      · rintro (hkey | ⟨table, htable⟩)
        · exact ⟨pair.2, by simp [hkey]⟩
        · exact ⟨table, List.mem_cons_of_mem _ htable⟩
      · rintro ⟨table, htable⟩
        rcases List.mem_cons.mp htable with hpair | hmem
        · exact .inl (congrArg Prod.fst hpair)
        · exact .inr ⟨table, hmem⟩

/-- Parameters that are related already change nothing. -/
theorem relateAll_of_related (hrelated : ∀ pair ∈ pairs, pair.2 ∈ relation.relatedTables pair.1) :
    relation.relateAll pairs = relation := by
  induction pairs with
  | nil => rfl
  | cons pair pairs ih =>
      obtain ⟨hpair, hpairs⟩ := List.forall_mem_cons.mp hrelated
      have hstep : relation.relateParam pair.1 pair.2 = relation := by
        unfold relatedTables at hpair
        cases hget : relation.forParams.get? pair.1 with
        | none => simp [hget] at hpair
        | some tables =>
            rw [hget, Option.getD_some] at hpair
            unfold relateParam
            rw [hget, Option.getD_some, addNew_of_mem hpair, OrderedMap.insert_of_get? hget]
      rw [relateAll_cons, hstep]
      exact ih hpairs

/-! ## Gathering evidence -/

/-- What speaks for a table after more was found. -/
def withEvidence (known : Option (List TableMatch)) (found : List TableMatch) :
    Option (List TableMatch) :=
  if found = [] then known else some (found.foldl addNew (known.getD []))

theorem withEvidence_append (known : Option (List TableMatch)) (found more : List TableMatch) :
    withEvidence known (found ++ more) = withEvidence (withEvidence known found) more := by
  unfold withEvidence
  by_cases hfound : found = []
  · simp [hfound]
  · by_cases hmore : more = []
    · simp [hmore]
    · simp [hfound, hmore]

/-- What was found before adds nothing. -/
theorem withEvidence_withEvidence (known : Option (List TableMatch)) (found : List TableMatch) :
    withEvidence (withEvidence known found) found = withEvidence known found := by
  unfold withEvidence
  by_cases hfound : found = []
  · simp [hfound]
  · have hsubset : found ⊆ found.foldl addNew (known.getD []) := fun item hitem =>
      mem_foldl_addNew.mpr (.inr hitem)
    simp [hfound, foldl_addNew_of_subset hsubset]

theorem mem_withEvidence {known : Option (List TableMatch)} {found : List TableMatch}
    {item : TableMatch} :
    item ∈ (withEvidence known found).getD [] ↔ item ∈ known.getD [] ∨ item ∈ found := by
  unfold withEvidence
  by_cases hfound : found = []
  · simp [hfound]
  · rw [if_neg hfound, Option.getD_some, mem_foldl_addNew]

theorem withEvidence_none_eq_some {found evidence : List TableMatch}
    (hget : withEvidence none found = some evidence) :
    evidence ≠ [] ∧ ∀ item ∈ evidence, item ∈ found := by
  have hmem : ∀ item, item ∈ evidence ↔ item ∈ found := by
    intro item
    have hadded := @mem_withEvidence none found item
    rw [hget] at hadded
    simpa using hadded
  refine ⟨?_, fun item => (hmem item).mp⟩
  rintro rfl
  have hnone : found = [] :=
    List.eq_nil_iff_forall_not_mem.mpr fun item hitem => List.not_mem_nil ((hmem item).mpr hitem)
  rw [hnone] at hget
  cases hget

end TableRelation

end RestCatalog
