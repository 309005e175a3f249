import RestCatalog.Proofs.Validation.Coercion
import RestCatalog.Validation.ConfigFile

/-!
# Which files hold a configuration

A file should hold a configuration or be refused (`LoadsOrRefuses`).  Two kinds of files are
neither (`Escapes`): those whose text is not read as a value, where the fault of reading is passed
on as it is, and mappings with a key that is no text, which no record can be made of.  There are
no others (`loadsOrRefuses_iff`).

Nothing is assumed of how texts are read: a markup may refuse any text, and it may read a text as
any value.  The fields are checked by any checks that go by what the values are read as.  The
program's are a case of it, with YAML and the table of `Readings.standard`.
-/

namespace RestCatalog

open Document

/-- What reading a file comes to, if it is there and in UTF-8. -/
def Markup.readFile? {V F : Type} (markup : Markup V F) (content : Option ByteArray) :
    Option (Except F V) :=
  (content.bind decode?).map markup.read

namespace Config

variable {V F : Type} {markup : Markup V F} {checks : FieldChecks V} {readings : Readings V}
  {file : String} {content : Option ByteArray} {value : V} {root : Root V} {entries : Entries V}

/-- A record is made of fields that are named by texts. -/
def HasTextKeys (entries : Entries V) : Prop := ∀ entry ∈ entries, entry.1.isSome = true

/-- The configuration that a root stands for: nothing is given by an empty one. -/
inductive StandsFor (readings : Readings V) : Root V → Config → Prop
  | empty {config : Config} : Follows readings [] config → StandsFor readings .empty config
  | mapping {entries : Entries V} {config : Config} : Follows readings entries config →
      StandsFor readings (.mapping entries) config

/-- The file is missing, its root is neither empty nor a mapping, or a key or a value in it is
not acceptable. -/
inductive Faulty (markup : Markup V F) (readings : Readings V) (content : Option ByteArray) : Prop
  | missing : content = none → Faulty markup readings content
  | root {value : V} : markup.readFile? content = some (.ok value) → markup.root value = .other →
      Faulty markup readings content
  | key {value : V} {entries : Entries V} : markup.readFile? content = some (.ok value) →
      markup.root value = .mapping entries → ¬ HasTextKeys entries →
      Faulty markup readings content
  | value {value : V} {entries : Entries V} : markup.readFile? content = some (.ok value) →
      markup.root value = .mapping entries → ¬ Acceptable readings entries →
      Faulty markup readings content

/-- Loading refuses a file that is faulty, gives the configuration in one that is not, and comes
to nothing else for a file in UTF-8. -/
structure LoadsOrRefuses (markup : Markup V F) (checks : FieldChecks V) (readings : Readings V)
    (file : String) (content : Option ByteArray) : Prop where
  refused : Faulty markup readings content →
    ∃ error, loadWith markup checks file content = .error (.refused error)
  loaded : ∀ value, markup.readFile? content = some (.ok value) →
    ¬ Faulty markup readings content → ∃ config, loadWith markup checks file content = .ok config ∧
      StandsFor readings (markup.root value) config ∧ 1 ≤ config.maxTestSize
  no_other : ∀ outcome, markup.readFile? content = some outcome →
    ∀ error, loadWith markup checks file content = .error error →
      ∃ refusal, error = .refused refusal

/-- Files whose fault is not told as one of the configuration. -/
inductive Escapes (markup : Markup V F) (content : Option ByteArray) : Prop
  | unread {fault : F} : markup.readFile? content = some (.error fault) → Escapes markup content
  | badKey {value : V} {entries : Entries V} : markup.readFile? content = some (.ok value) →
      markup.root value = .mapping entries → ¬ HasTextKeys entries → Escapes markup content

/-! ## Roots -/

theorem follows_standard (readings : Readings V) : Follows readings [] standard :=
  ⟨.absent rfl, .absent rfl, .absent rfl, .absent rfl, .absent rfl, .absent rfl⟩

theorem ofRoot_of_not_hasTextKeys (hkeys : ¬ HasTextKeys entries) :
    ofRoot (F := F) checks file (.mapping entries) = .error .badKey := by
  rw [ofRoot, if_neg (by simpa [HasTextKeys] using hkeys)]

theorem exists_ofRoot_of_acceptable (hobey : checks.Obey readings) (hkeys : HasTextKeys entries)
    (hfields : Acceptable readings entries) :
    ∃ config, ofRoot (F := F) checks file (.mapping entries) = .ok config ∧
      Follows readings entries config := by
  obtain ⟨config, hfollows⟩ := exists_follows_iff.mpr hfields
  refine ⟨config, ?_, hfollows⟩
  rw [ofRoot, if_pos (List.all_eq_true.mpr hkeys), (ofEntries_eq_valid_iff hobey).mpr hfollows]

theorem exists_ofRoot_of_not_acceptable (hobey : checks.Obey readings)
    (hkeys : HasTextKeys entries) (hfields : ¬ Acceptable readings entries) :
    ∃ problems, ofRoot (F := F) checks file (.mapping entries) =
      .error (.refused (.rejected file problems)) := by
  rw [ofRoot, if_pos (List.all_eq_true.mpr hkeys)]
  cases hchecked : ofEntries checks entries with
  | valid config =>
      have hfollows := (ofEntries_eq_valid_iff hobey).mp hchecked
      exact absurd (exists_follows_iff.mp ⟨config, hfollows⟩) hfields
  | rejected problems => exact ⟨problems, rfl⟩

/-! ## Files -/

theorem loadWith_of_ok (hread : markup.readFile? content = some (.ok value)) :
    loadWith markup checks file content = ofRoot checks file (markup.root value) := by
  obtain ⟨text, htext, hvalue⟩ := Option.map_eq_some_iff.mp hread
  obtain ⟨bytes, rfl, hdecode⟩ := Option.bind_eq_some_iff.mp htext
  simp only [loadWith, hdecode, hvalue]

theorem loadWith_of_error {fault : F} (hread : markup.readFile? content = some (.error fault)) :
    loadWith markup checks file content = .error (.unread fault) := by
  obtain ⟨text, htext, hfault⟩ := Option.map_eq_some_iff.mp hread
  obtain ⟨bytes, rfl, hdecode⟩ := Option.bind_eq_some_iff.mp htext
  simp only [loadWith, hdecode, hfault]

/-- What escapes is told, but not as a fault of the configuration. -/
theorem exists_other_of_escapes (checks : FieldChecks V) (file : String)
    (hescapes : Escapes markup content) :
    ∃ error, loadWith markup checks file content = .error error ∧
      ∀ refusal, error ≠ .refused refusal := by
  cases hescapes with
  | unread hread => exact ⟨_, loadWith_of_error hread, fun refusal h => nomatch h⟩
  | badKey hread hroot hkeys =>
      refine ⟨.badKey, ?_, fun refusal h => nomatch h⟩
      rw [loadWith_of_ok hread, hroot, ofRoot_of_not_hasTextKeys hkeys]

theorem readFile?_of_escapes (hescapes : Escapes markup content) :
    ∃ outcome, markup.readFile? content = some outcome := by
  cases hescapes with
  | unread hread => exact ⟨_, hread⟩
  | badKey hread _ _ => exact ⟨_, hread⟩

theorem not_escapes_of_loadsOrRefuses
    (hloads : LoadsOrRefuses markup checks readings file content) : ¬ Escapes markup content := by
  intro hescapes
  obtain ⟨outcome, hread⟩ := readFile?_of_escapes hescapes
  obtain ⟨error, hload, hother⟩ := exists_other_of_escapes checks file hescapes
  obtain ⟨refusal, hrefusal⟩ := hloads.no_other outcome hread error hload
  exact hother refusal hrefusal

theorem exists_refused_of_faulty (hobey : checks.Obey readings)
    (hcaught : ¬ Escapes markup content) (hfaulty : Faulty markup readings content) :
    ∃ error, loadWith markup checks file content = .error (.refused error) := by
  cases hfaulty with
  | missing hnone =>
      rw [hnone]
      exact ⟨.missing file, rfl⟩
  | root hread hroot =>
      rw [loadWith_of_ok hread, hroot]
      exact ⟨.notMapping, rfl⟩
  | key hread hroot hkeys => exact absurd (.badKey hread hroot hkeys) hcaught
  | value hread hroot hfields =>
      have hkeys : HasTextKeys _ :=
        Classical.not_not.mp fun hkeys => hcaught (.badKey hread hroot hkeys)
      obtain ⟨problems, hproblems⟩ := exists_ofRoot_of_not_acceptable hobey hkeys hfields
      rw [loadWith_of_ok hread, hroot]
      exact ⟨.rejected file problems, hproblems⟩

theorem exists_loaded_of_not_faulty (hobey : checks.Obey readings)
    (hread : markup.readFile? content = some (.ok value))
    (hsound : ¬ Faulty markup readings content) :
    ∃ config, loadWith markup checks file content = .ok config ∧
      StandsFor readings (markup.root value) config := by
  rw [loadWith_of_ok hread]
  cases hroot : markup.root value with
  | empty => exact ⟨standard, rfl, .empty (follows_standard readings)⟩
  | mapping entries =>
      have hkeys : HasTextKeys entries :=
        Classical.not_not.mp fun hkeys => hsound (.key hread hroot hkeys)
      have hfields : Acceptable readings entries :=
        Classical.not_not.mp fun hfields => hsound (.value hread hroot hfields)
      obtain ⟨config, hload, hfollows⟩ := exists_ofRoot_of_acceptable hobey hkeys hfields
      exact ⟨config, by simpa only [hroot] using hload, .mapping hfollows⟩
  | other => exact absurd (.root hread hroot) hsound

/-- A file is loaded or refused unless its fault is of another kind, however texts are read and
fields are checked. -/
theorem loadsOrRefuses_iff (markup : Markup V F) (checks : FieldChecks V)
    (readings : Readings V) (hobey : checks.Obey readings) (file : String)
    (content : Option ByteArray) :
    LoadsOrRefuses markup checks readings file content ↔ ¬ Escapes markup content := by
  refine ⟨not_escapes_of_loadsOrRefuses, fun hcaught => ?_⟩
  constructor
  case refused => exact exists_refused_of_faulty hobey hcaught
  case loaded =>
    intro value hread hsound
    obtain ⟨config, hload, hstands⟩ := exists_loaded_of_not_faulty hobey hread hsound
    exact ⟨config, hload, hstands, config.maxTestSize_pos⟩
  case no_other =>
    intro outcome hread error hload
    cases outcome with
    | error fault => exact absurd (.unread hread) hcaught
    | ok value =>
        by_cases hfaulty : Faulty markup readings content
        case pos =>
          obtain ⟨refusal, hrefused⟩ := exists_refused_of_faulty hobey hcaught hfaulty
          exact ⟨refusal, Except.error.inj (hload.symm.trans hrefused)⟩
        case neg =>
          obtain ⟨config, hloaded, -⟩ := exists_loaded_of_not_faulty hobey hread hfaulty
          cases hload.symm.trans hloaded

/-- A text is coerced to a seed; a size of zero and a table that is no text are refused at once. -/
theorem loadsOrRefuses_seedAndTables :
    FieldChecks.standard.Obey Readings.standard ∧
      LoadsOrRefuses .yaml .standard .standard "resolver.yaml"
        (some "seed: '42'\ntables:\n  - SHOP\n".toUTF8) ∧
      load "resolver.yaml" (some "seed: '42'\ntables:\n  - SHOP\n".toUTF8) =
        .ok { seed := some 42, tables := ["SHOP"] } ∧
      LoadsOrRefuses .yaml .standard .standard "resolver.yaml"
        (some "max_test_size: 0\ntables: [1]\n".toUTF8) ∧
      load "resolver.yaml" (some "max_test_size: 0\ntables: [1]\n".toUTF8) =
        .error (.refused (.rejected "resolver.yaml"
          [⟨"max_test_size", "Input should be greater than or equal to 1"⟩,
            ⟨"tables.0", "Input should be a valid string"⟩])) := by
  have hloaded : load "resolver.yaml" (some "seed: '42'\ntables:\n  - SHOP\n".toUTF8) =
      .ok { seed := some 42, tables := ["SHOP"] } := by decide +kernel
  have hrefused : load "resolver.yaml" (some "max_test_size: 0\ntables: [1]\n".toUTF8) =
      .error (.refused (.rejected "resolver.yaml"
        [⟨"max_test_size", "Input should be greater than or equal to 1"⟩,
          ⟨"tables.0", "Input should be a valid string"⟩])) := by decide +kernel
  refine ⟨FieldChecks.standard_obey, ?_, hloaded, ?_, hrefused⟩
  · refine (loadsOrRefuses_iff .yaml .standard .standard FieldChecks.standard_obey _ _).mpr ?_
    intro hescapes
    obtain ⟨error, hload, -⟩ := exists_other_of_escapes .standard "resolver.yaml" hescapes
    cases hloaded.symm.trans hload
  · refine (loadsOrRefuses_iff .yaml .standard .standard FieldChecks.standard_obey _ _).mpr ?_
    intro hescapes
    obtain ⟨error, hload, hother⟩ := exists_other_of_escapes .standard "resolver.yaml" hescapes
    exact hother _ (Except.error.inj (hload.symm.trans hrefused))

/-- A number as a key is passed on as a fault of another kind. -/
theorem not_loadsOrRefuses_numberKey :
    ¬ LoadsOrRefuses .yaml .standard .standard "resolver.yaml" (some "1: 2\n".toUTF8) := by
  intro hloads
  have hload : loadWith .yaml .standard "resolver.yaml" (some "1: 2\n".toUTF8) =
      .error .badKey := by decide +kernel
  have hsome : (Markup.yaml.readFile? (some "1: 2\n".toUTF8)).isSome = true := by decide +kernel
  obtain ⟨outcome, hread⟩ := Option.isSome_iff_exists.mp hsome
  obtain ⟨refusal, hrefusal⟩ := hloads.no_other outcome hread .badKey hload
  cases hrefusal

end Config

end RestCatalog
