import RestCatalog.Proofs.Table.Relation
import RestCatalog.Proofs.Text.Words
import RestCatalog.Resource.Params
import RestCatalog.Resource.Tables

/-!
# Tables derived batch by batch

Tables are derived from the words of a path whenever table names become known, a few at a time or
all at once, and some of them more than once.  None of this shows in the end.

* What speaks for a table depends on the words and on the table alone: of all matches with some
  tables, those with one table are its matches with the words (`filter_matchTables`).
* Several derivations note the matches of one after the other (`foldl_deriveTables`).  Of these,
  a table gets its own evidence, each item once (`get?_derived_foldl_noteMatch`), and a parameter
  gets the tables of the matches that its segment mentions (`mem_relatedTables_foldl_noteMatch`).
* What is noted already is not noted again (`foldl_noteMatch_of_subset`).

`derivedInBatches` draws the conclusions for any number of batches.
-/

namespace RestCatalog

/-! ## What speaks for one table -/

/-- The matches with one of some tables are its matches with the words. -/
theorem filter_matchTables (words tables : List String) (table : String) :
    ((matchTables words tables).filter fun found => found.table = table) =
      if table ∈ tables then matchTables words [table] else [] := by
  have honce : (tables.eraseDups.filter fun other => other = table) =
      if table ∈ tables then [table] else [] := by
    rw [List.filter_eq]
    by_cases hmem : table ∈ tables
    · rw [if_pos hmem, List.count_eq_one_of_mem (nodup_eraseDups tables)
        (List.mem_eraseDups.mpr hmem)]
      rfl
    · rw [if_neg hmem, List.count_eq_zero_of_not_mem fun h => hmem (List.mem_eraseDups.mp h)]
      rfl
  have hnamed : ∀ (word : String) (closeness : Closeness),
      (((tablesNamed tables.eraseDups word).map fun other =>
          (⟨word, other, closeness⟩ : TableMatch)).filter fun found => found.table = table) =
        if table ∈ tables then (tablesNamed [table] word).map fun other =>
          (⟨word, other, closeness⟩ : TableMatch) else [] := by
    intro word closeness
    rw [List.filter_map]
    have hswap : (tablesNamed tables.eraseDups word).filter
        ((fun found : TableMatch => decide (found.table = table)) ∘
          fun other => ⟨word, other, closeness⟩) =
        tablesNamed (tables.eraseDups.filter fun other => other = table) word := by
      unfold tablesNamed
      rw [List.filter_filter, List.filter_filter]
      exact List.filter_congr fun other _ => Bool.and_comm _ _
    rw [hswap, honce]
    split <;> rfl
  have hsingle : [table].eraseDups = [table] := rfl
  unfold matchTables
  simp only [List.filter_append, List.filter_flatMap, hnamed, hsingle]
  split
  case isTrue => rfl
  case isFalse => simp

theorem mem_matchTables_iff {words tables : List String} {found : TableMatch} :
    found ∈ matchTables words tables ↔
      found.table ∈ tables ∧ found ∈ matchTables words [found.table] := by
  have hfilter := filter_matchTables words tables found.table
  have hself : found ∈ matchTables words tables ↔
      found ∈ (matchTables words tables).filter fun other => other.table = found.table := by
    simp
  rw [hself, hfilter]
  by_cases htable : found.table ∈ tables <;> simp [htable]

namespace Resource

open TableRelation

variable {resource : Resource} {relation : TableRelation} {found : List TableMatch}
  {item : TableMatch} {key table : String} {batches : List (List String)}

/-! ## Noting matches -/

/-- The parameters that a match relates to its table. -/
def pairsOf (resource : Resource) (item : TableMatch) : List (String × String) :=
  (resource.params.values.filter fun info => segmentMentions info item.indicator).map
    fun info => (info.key, item.table)

theorem noteMatch_eq (resource : Resource) (relation : TableRelation) (item : TableMatch) :
    resource.noteMatch relation item =
      (relation.derive item.table item).relateAll (resource.pairsOf item) := by
  unfold noteMatch relateAll pairsOf
  rw [List.foldl_map]

theorem mem_pairsOf : (key, table) ∈ resource.pairsOf item ↔
    table = item.table ∧ ∃ info ∈ resource.params.values, info.key = key ∧
      segmentMentions info item.indicator = true := by
  unfold pairsOf
  rw [List.mem_map]
  constructor
  · rintro ⟨info, hinfo, hpair⟩
    obtain ⟨hmem, hmentions⟩ := List.mem_filter.mp hinfo
    obtain ⟨hkey, htable⟩ := Prod.ext_iff.mp hpair
    exact ⟨htable.symm, info, hmem, hkey, hmentions⟩
  · rintro ⟨rfl, info, hmem, rfl, hmentions⟩
    exact ⟨info, List.mem_filter.mpr ⟨hmem, hmentions⟩, rfl⟩

theorem confirmed_foldl_noteMatch (resource : Resource) (relation : TableRelation)
    (found : List TableMatch) :
    (found.foldl resource.noteMatch relation).confirmed = relation.confirmed := by
  induction found generalizing relation with
  | nil => rfl
  | cons item found ih => rw [List.foldl_cons, ih, noteMatch_eq, confirmed_relateAll, derive]

/-- A table gets the matches with it. -/
theorem get?_derived_foldl_noteMatch (resource : Resource) (relation : TableRelation)
    (found : List TableMatch) (table : String) :
    (found.foldl resource.noteMatch relation).derived.get? table =
      withEvidence (relation.derived.get? table)
        (found.filter fun item => item.table = table) := by
  induction found generalizing relation with
  | nil => rfl
  | cons item found ih =>
      rw [List.foldl_cons, ih, noteMatch_eq, derived_relateAll, derive, OrderedMap.get?_insert]
      by_cases htable : item.table = table
      · rw [if_pos htable.symm, List.filter_cons_of_pos (by simpa using htable), htable,
          ← List.singleton_append, withEvidence_append]
        rfl
      · rw [if_neg fun h => htable h.symm, List.filter_cons_of_neg (by simpa using htable)]

/-- A parameter gets the tables of the matches that its segment mentions. -/
theorem mem_relatedTables_foldl_noteMatch :
    table ∈ (found.foldl resource.noteMatch relation).relatedTables key ↔
      table ∈ relation.relatedTables key ∨ ∃ item ∈ found, (key, table) ∈ resource.pairsOf item := by
  induction found generalizing relation with
  | nil => simp
  | cons item found ih =>
      rw [List.foldl_cons, ih, noteMatch_eq, mem_relatedTables_relateAll]
      simp only [List.exists_mem_cons_iff, or_assoc]
      rfl

theorem mem_keys_foldl_noteMatch :
    key ∈ (found.foldl resource.noteMatch relation).forParams.keys ↔
      key ∈ relation.forParams.keys ∨
        ∃ item ∈ found, ∃ table, (key, table) ∈ resource.pairsOf item := by
  induction found generalizing relation with
  | nil => simp
  | cons item found ih =>
      rw [List.foldl_cons, ih, noteMatch_eq, mem_keys_relateAll]
      simp only [List.exists_mem_cons_iff, or_assoc]
      rfl

/-- A match that is noted already changes nothing. -/
theorem noteMatch_of_noted
    (hevidence : item ∈ (relation.derived.get? item.table).getD [])
    (hrelated : ∀ pair ∈ resource.pairsOf item, pair.2 ∈ relation.relatedTables pair.1) :
    resource.noteMatch relation item = relation := by
  have hderive : relation.derive item.table item = relation := by
    cases hget : relation.derived.get? item.table with
    | none => simp [hget] at hevidence
    | some evidence =>
        rw [hget, Option.getD_some] at hevidence
        unfold derive
        rw [hget, Option.getD_some, addNew_of_mem hevidence, OrderedMap.insert_of_get? hget]
  rw [noteMatch_eq, hderive, relateAll_of_related hrelated]

/-- Matches that were noted are not noted again. -/
theorem foldl_noteMatch_of_subset {noted : List TableMatch} (hsubset : found ⊆ noted) :
    found.foldl resource.noteMatch (noted.foldl resource.noteMatch relation) =
      noted.foldl resource.noteMatch relation := by
  induction found with
  | nil => rfl
  | cons item found ih =>
      have hitem : item ∈ noted := hsubset List.mem_cons_self
      have hnoted : resource.noteMatch (noted.foldl resource.noteMatch relation) item =
          noted.foldl resource.noteMatch relation := by
        apply noteMatch_of_noted
        · rw [get?_derived_foldl_noteMatch]
          exact mem_withEvidence.mpr
            (.inr (List.mem_filter.mpr ⟨hitem, decide_eq_true rfl⟩))
        · intro pair hpair
          exact mem_relatedTables_foldl_noteMatch.mpr (.inr ⟨item, hitem, hpair⟩)
      rw [List.foldl_cons, hnoted]
      exact ih fun other hother => hsubset (List.mem_cons_of_mem _ hother)

/-! ## Batches -/

/-- The matches of a number of derivations, one after the other. -/
def batchMatches (resource : Resource) (batches : List (List String)) : List TableMatch :=
  batches.flatMap (matchTables (resource.tokens.flatWords false))

/-- Derivations note the matches of one after the other, and change nothing else. -/
theorem foldl_deriveTables (resource : Resource) (batches : List (List String)) :
    batches.foldl deriveTables resource =
      { resource with
        tables := (resource.batchMatches batches).foldl resource.noteMatch resource.tables } := by
  induction batches generalizing resource with
  | nil => rfl
  | cons batch batches ih =>
      rw [List.foldl_cons, ih]
      unfold batchMatches
      rw [List.flatMap_cons, List.foldl_append]
      rfl

theorem mem_batchMatches_iff :
    item ∈ resource.batchMatches batches ↔
      item.table ∈ batches.flatten ∧
        item ∈ matchTables (resource.tokens.flatWords false) [item.table] := by
  unfold batchMatches
  rw [List.mem_flatMap, List.mem_flatten]
  constructor
  · rintro ⟨batch, hbatch, hitem⟩
    obtain ⟨htable, hitem⟩ := mem_matchTables_iff.mp hitem
    exact ⟨⟨batch, hbatch, htable⟩, hitem⟩
  · rintro ⟨⟨batch, hbatch, htable⟩, hitem⟩
    exact ⟨batch, hbatch, mem_matchTables_iff.mpr ⟨htable, hitem⟩⟩

/-- A table gets the same evidence from each batch that has it, and so from all of them what it
gets from one. -/
theorem withEvidence_batchMatches (resource : Resource) (batches : List (List String))
    (known : Option (List TableMatch)) (table : String) :
    withEvidence known ((resource.batchMatches batches).filter fun item => item.table = table) =
      if table ∈ batches.flatten then
        withEvidence known (matchTables (resource.tokens.flatWords false) [table])
      else known := by
  induction batches generalizing known with
  | nil => rfl
  | cons batch batches ih =>
      have hfirst : withEvidence known
          ((matchTables (resource.tokens.flatWords false) batch).filter
            fun item => item.table = table) =
          if table ∈ batch then
            withEvidence known (matchTables (resource.tokens.flatWords false) [table])
          else known := by
        rw [filter_matchTables]
        split <;> rfl
      unfold batchMatches at ih ⊢
      rw [List.flatMap_cons, List.filter_append, withEvidence_append, ih, hfirst, List.flatten_cons]
      by_cases hbatch : table ∈ batch
      · by_cases hlater : table ∈ batches.flatten
        · simp [hbatch, hlater, withEvidence_withEvidence]
        · simp [hbatch, hlater]
      · simp [hbatch]

theorem nodup_keys_derived_foldl_noteMatch (hnodup : relation.derived.keys.Nodup)
    (found : List TableMatch) :
    (found.foldl resource.noteMatch relation).derived.keys.Nodup := by
  induction found generalizing relation with
  | nil => exact hnodup
  | cons item found ih =>
      rw [List.foldl_cons]
      apply ih
      rw [noteMatch_eq, derived_relateAll]
      exact OrderedMap.nodup_keys_insert hnodup _ _

/-- What a relation says that grew from nothing. -/
structure Traced (resource : Resource) (relation : TableRelation) : Prop where
  /-- The tables that evidence names are those that have some. -/
  mem_derivedTables_iff : ∀ table, table ∈ relation.derivedTables ↔ table ∈ relation.derived.keys
  insertionPoints_eq : relation.confirmed = [] → relation.insertionPoints = relation.derived.keys
  /-- A parameter is related to a table only for evidence that its segment mentions. -/
  justified : ∀ key, ∀ table ∈ relation.relatedTables key,
    ∃ info ∈ resource.params.values, info.key = key ∧
      ∃ item ∈ (relation.derived.get? table).getD [], item.table = table ∧
        (Text.lower item.indicator).toList <:+: info.segment.toList.filter fun c => c != '@'

/-- Matches that are noted from nothing on are all that the relation speaks of. -/
theorem traced_foldl_noteMatch (hderived : relation.derived = {}) (hparams : relation.forParams = {})
    (found : List TableMatch) : resource.Traced (found.foldl resource.noteMatch relation) := by
  have hevidence : ∀ table, (found.foldl resource.noteMatch relation).derived.get? table =
      withEvidence none (found.filter fun item => item.table = table) := by
    intro table
    rw [get?_derived_foldl_noteMatch, hderived]
    rfl
  constructor
  case mem_derivedTables_iff =>
    intro table
    apply TableRelation.mem_derivedTables_iff
    · apply nodup_keys_derived_foldl_noteMatch
      rw [hderived]
      exact List.nodup_nil
    · intro table evidence hget
      rw [hevidence] at hget
      obtain ⟨hsome, hmem⟩ := withEvidence_none_eq_some hget
      exact ⟨hsome, fun item hitem => by simpa using (List.mem_filter.mp (hmem item hitem)).2⟩
  case insertionPoints_eq =>
    intro hnone
    unfold insertionPoints
    rw [hnone]
    rfl
  case justified =>
    intro key table htable
    rw [mem_relatedTables_foldl_noteMatch] at htable
    rcases htable with hbefore | ⟨item, hitem, hpair⟩
    · unfold relatedTables at hbefore
      rw [hparams] at hbefore
      cases hbefore
    · obtain ⟨rfl, info, hinfo, hkey, hmentions⟩ := mem_pairsOf.mp hpair
      refine ⟨info, hinfo, hkey, item, ?_, rfl, Text.occursIn_iff.mp hmentions⟩
      rw [hevidence]
      exact mem_withEvidence.mpr (.inr (List.mem_filter.mpr ⟨hitem, decide_eq_true rfl⟩))

/-- What a number of derivations have in common with the derivation from all their tables. -/
structure DerivedInBatches (resource : Resource) (batches : List (List String)) : Prop where
  agrees : (batches.foldl deriveTables resource).tables.Agrees
    (resource.deriveTables batches.flatten).tables
  nodup_evidence :
    (∀ table evidence, resource.tables.derived.get? table = some evidence → evidence.Nodup) →
      ∀ table evidence,
        (batches.foldl deriveTables resource).tables.derived.get? table = some evidence →
          evidence.Nodup
  /-- A batch that comes again changes nothing. -/
  repeat_eq : ∀ batch ∈ batches, (batches.foldl deriveTables resource).deriveTables batch =
    batches.foldl deriveTables resource
  traced : resource.tables.derived = {} → resource.tables.forParams = {} →
    resource.Traced (batches.foldl deriveTables resource).tables

/-- Tables can be derived in any number of batches. -/
theorem derivedInBatches (resource : Resource) (batches : List (List String)) :
    resource.DerivedInBatches batches := by
  have hall := foldl_deriveTables resource batches
  have honce := foldl_deriveTables resource [batches.flatten]
  have hmatches : ∀ item, item ∈ resource.batchMatches batches ↔
      item ∈ resource.batchMatches [batches.flatten] := by
    intro item
    rw [mem_batchMatches_iff, mem_batchMatches_iff, List.flatten_singleton]
  constructor
  case agrees =>
    rw [List.foldl_cons, List.foldl_nil] at honce
    rw [hall, honce]
    constructor
    case confirmed_eq =>
      dsimp only
      rw [confirmed_foldl_noteMatch, confirmed_foldl_noteMatch]
    case evidence_eq =>
      intro table
      dsimp only
      rw [get?_derived_foldl_noteMatch, get?_derived_foldl_noteMatch, withEvidence_batchMatches,
        withEvidence_batchMatches, List.flatten_singleton]
    case related_eq =>
      intro key
      apply related_eq_of_mem_iff
      · rw [mem_keys_foldl_noteMatch, mem_keys_foldl_noteMatch]
        simp only [hmatches]
      · intro table
        rw [mem_relatedTables_foldl_noteMatch, mem_relatedTables_foldl_noteMatch]
        simp only [hmatches]
  case nodup_evidence =>
    intro hstart table evidence hget
    rw [hall] at hget
    dsimp only at hget
    rw [get?_derived_foldl_noteMatch] at hget
    unfold withEvidence at hget
    split at hget
    case isTrue => exact hstart table evidence hget
    case isFalse =>
      rw [← Option.some.inj hget]
      apply nodup_foldl_addNew
      cases hknown : resource.tables.derived.get? table with
      | none => exact List.nodup_nil
      | some known => exact hstart table known hknown
  case repeat_eq =>
    intro batch hbatch
    -- the matches of the batch are among those that were noted
    have hsubset : matchTables (resource.tokens.flatWords false) batch ⊆
        resource.batchMatches batches := fun item hitem =>
      List.mem_flatMap.mpr ⟨batch, hbatch, hitem⟩
    have hsame : (matchTables (resource.tokens.flatWords false) batch).foldl resource.noteMatch
        ((resource.batchMatches batches).foldl resource.noteMatch resource.tables) =
          (resource.batchMatches batches).foldl resource.noteMatch resource.tables :=
      foldl_noteMatch_of_subset hsubset
    rw [hall]
    exact congrArg (fun tables => { resource with tables }) hsame
  case traced =>
    intro hderived hparams
    rw [hall]
    exact traced_foldl_noteMatch hderived hparams _

/-- The items of a shop, with the parameter of their one call. -/
def itemsOfShop : Resource :=
  initParams
    { path := Path.ofText "/shops/{shopId}/items"
      calls := [{
        verb := .get
        path := "/shops/{shopId}/items"
        params := [{ name := "shopId", location := "path" }] }] }

/-- A table that comes twice has its evidence once, and the shop's number is related to the two
spellings of its table. -/
theorem derivedInBatches_itemsOfShop :
    itemsOfShop.DerivedInBatches [["SHOP"], ["ITEMS", "shop"], ["SHOP"]] ∧
      ([["SHOP"], ["ITEMS", "shop"], ["SHOP"]].foldl deriveTables itemsOfShop).tables =
        { derived := ⟨[("SHOP", [⟨"shops", "SHOP", .whole⟩]), ("shop", [⟨"shops", "shop", .whole⟩]),
            ("ITEMS", [⟨"items", "ITEMS", .whole⟩])]⟩
          forParams := ⟨[("path:shops@shopId", ["SHOP", "shop"])]⟩ } :=
  ⟨derivedInBatches itemsOfShop _, by decide +kernel⟩

end Resource

end RestCatalog
