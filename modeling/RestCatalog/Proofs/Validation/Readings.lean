import Mathlib.Control.Monad.Basic
import RestCatalog.Proofs.Validation.Checked
import RestCatalog.Validation.Records

/-!
# What the fields of a configuration are read as

`Readings` says what the values of a document are read as, for each kind of field: a mode, a
truth value, an integer, a text, nothing, a list.  It knows nothing of checks and messages; that
checks go by it is said once (`FieldChecks.Obey`).

Checks that obey accept the entries of a configuration exactly if each of its fields, where it is
given, is read as something (`Config.exists_follows_iff`), and the configuration has what they
are read as and the defaults for the others (`Config.ofEntries_eq_valid_iff`).  What other checks
say is still about the fields that a configuration has (`Config.within_of_mem_problems`).
-/

namespace RestCatalog

/-- What values are read as.  A value that a kind of field does not take is read as nothing of
this kind. -/
structure Readings (V : Type) where
  mode : V → InitMode → Prop
  truth : V → Bool → Prop
  integer : V → Int → Prop
  text : V → String → Prop
  /-- The values that stand for nothing. -/
  nothing : V → Prop
  items : V → List V → Prop

namespace Readings

variable {V : Type} (readings : Readings V)

/-- An integer that is not less than a bound. -/
def atLeast (least : Nat) (value : V) (n : Nat) : Prop := readings.integer value n ∧ least ≤ n

inductive integerOrNull : V → Option Int → Prop
  | nothing {value : V} : readings.nothing value → integerOrNull value none
  | integer {value : V} {n : Int} : readings.integer value n → integerOrNull value (some n)

/-- A list of nothing but texts. -/
inductive texts : V → List String → Prop
  | list {value : V} {items : List V} {names : List String} : readings.items value items →
      List.Forall₂ readings.text items names → texts value names

end Readings

/-- The checks accept the values that are read as something, and answer what these are read as. -/
structure FieldChecks.Obey {V : Type} (checks : FieldChecks V) (readings : Readings V) : Prop where
  mode : ∀ value mode, checks.mode value = .valid mode ↔ readings.mode value mode
  truth : ∀ value truth, checks.truth value = .valid truth ↔ readings.truth value truth
  atLeast : ∀ least value n,
    checks.atLeast least value = .valid n ↔ readings.atLeast least value n.val
  integerOrNull : ∀ value n,
    checks.integerOrNull value = .valid n ↔ readings.integerOrNull value n
  texts : ∀ value names, checks.texts value = .valid names ↔ readings.texts value names

namespace Config

variable {V : Type} {checks : FieldChecks V} {readings : Readings V} {entries : Entries V}
  {config : Config}

/-- The configuration has every field as it is given, and the default where it is not. -/
structure Follows (readings : Readings V) (entries : Entries V) (config : Config) : Prop where
  initMode : Reads (entries.given? "init_mode") readings.mode .withToken config.initMode
  withRows : Reads (entries.given? "with_db") readings.truth false config.withRows
  maxTestSize : Reads (entries.given? "max_test_size") (readings.atLeast 1) 10 config.maxTestSize
  seed : Reads (entries.given? "seed") readings.integerOrNull none config.seed
  chooseLessVisited : Reads (entries.given? "choose_less_visit") readings.truth true
    config.chooseLessVisited
  tables : Reads (entries.given? "tables") readings.texts [] config.tables

/-- Every field that is given is read as something. -/
structure Acceptable (readings : Readings V) (entries : Entries V) : Prop where
  initMode : Accepts (entries.given? "init_mode") readings.mode
  withRows : Accepts (entries.given? "with_db") readings.truth
  maxTestSize : Accepts (entries.given? "max_test_size") (readings.atLeast 1)
  seed : Accepts (entries.given? "seed") readings.integerOrNull
  chooseLessVisited : Accepts (entries.given? "choose_less_visit") readings.truth
  tables : Accepts (entries.given? "tables") readings.texts

theorem one_le_of_reads {given : Option V} {size : Nat}
    (hsize : Reads given (readings.atLeast 1) 10 size) : 1 ≤ size := by
  cases hsize with
  | given hgiven hread => exact hread.2
  | absent habsent => decide

theorem exists_follows_iff :
    (∃ config : Config, Follows readings entries config) ↔ Acceptable readings entries := by
  constructor
  · rintro ⟨config, hmode, hrows, hsize, hseed, hless, htables⟩
    exact ⟨exists_reads_iff.mp ⟨_, hmode⟩, exists_reads_iff.mp ⟨_, hrows⟩,
      exists_reads_iff.mp ⟨_, hsize⟩, exists_reads_iff.mp ⟨_, hseed⟩,
      exists_reads_iff.mp ⟨_, hless⟩, exists_reads_iff.mp ⟨_, htables⟩⟩
  · rintro ⟨hmode, hrows, hsize, hseed, hless, htables⟩
    obtain ⟨initMode, hmode⟩ := exists_reads_iff.mpr hmode
    obtain ⟨withRows, hrows⟩ := exists_reads_iff.mpr hrows
    obtain ⟨maxTestSize, hsize⟩ := exists_reads_iff.mpr hsize
    obtain ⟨seed, hseed⟩ := exists_reads_iff.mpr hseed
    obtain ⟨chooseLessVisited, hless⟩ := exists_reads_iff.mpr hless
    obtain ⟨tables, htables⟩ := exists_reads_iff.mpr htables
    exact ⟨⟨initMode, withRows, maxTestSize, one_le_of_reads hsize, seed, chooseLessVisited,
      tables⟩, hmode, hrows, hsize, hseed, hless, htables⟩

theorem ofEntries_eq_valid_iff (hobey : checks.Obey readings) :
    ofEntries checks entries = .valid config ↔ Follows readings entries config := by
  simp only [ofEntries, Entries.optional, Checked.seq_eq_valid_iff, Checked.map_eq_valid_iff,
    Checked.ifGiven_eq_valid_iff hobey.mode, Checked.ifGiven_eq_valid_iff hobey.truth,
    Checked.ifGiven_eq_valid_iff (hobey.atLeast 1), reads_subtype_iff,
    Checked.ifGiven_eq_valid_iff hobey.integerOrNull, Checked.ifGiven_eq_valid_iff hobey.texts]
  constructor
  · rintro ⟨-, tables, ⟨-, less, ⟨-, seed, ⟨-, size, ⟨-, rows, ⟨mode, hmode, rfl⟩, hrows, rfl⟩,
      hsize, rfl⟩, hseed, rfl⟩, hless, rfl⟩, htables, rfl⟩
    exact ⟨hmode, hrows, hsize, hseed, hless, htables⟩
  · rintro ⟨hmode, hrows, hsize, hseed, hless, htables⟩
    exact ⟨_, _, ⟨_, _, ⟨_, _, ⟨_, ⟨_, config.maxTestSize_pos⟩, ⟨_, _, ⟨_, hmode, rfl⟩, hrows,
      rfl⟩, hsize, rfl⟩, hseed, rfl⟩, hless, rfl⟩, htables, rfl⟩

def fieldNames : List String :=
  ["init_mode", "with_db", "max_test_size", "seed", "choose_less_visit", "tables"]

/-- What is wrong with a configuration is said of its fields, whatever the checks. -/
theorem within_of_mem_problems {problem : Problem}
    (hproblem : problem ∈ (ofEntries checks entries).problems) :
    ∃ name ∈ fieldNames, problem.Within name := by
  simp only [ofEntries, Checked.problems_seq, Checked.problems_map, List.mem_append] at hproblem
  rcases hproblem with ((((h | h) | h) | h) | h) | h <;>
    exact ⟨_, by simp [fieldNames], Checked.within_of_mem_problems_ifGiven h⟩

end Config

end RestCatalog
