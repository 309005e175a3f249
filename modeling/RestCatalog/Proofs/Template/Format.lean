import Mathlib.Logic.ExistsUnique
import RestCatalog.Proofs.Reading
import RestCatalog.Proofs.Text.Split
import RestCatalog.Template.Basic

/-!
# The texts of combinations of verbs

The text of a combination is joined from the texts of its verbs with a `-` between them, and a
text is read by cutting it at every `-`.  The parts of a text are the only texts without a `-`
that join to it (`parts_eq_iff`).  No verb is written with a `-`, so cutting the text of a
combination gives the texts of its verbs (`parts_format`), and reading it gives the verbs
(`parse_format`).  In particular different combinations have different texts (`format_inj`).

Nothing is put right when a text is read: a part is a verb only if it is written like the verb.
So a text that can be read is the text of what it is read as (`parse_eq_ok_iff`).  Every other
text is refused with the first of its parts that is no verb (`parse_eq_error_iff`), and that part
is empty if the text is, or if it begins with a `-`.

`readAsWritten` puts both directions together.
-/

namespace RestCatalog

namespace Template

variable {template : Template} {verb : Verb} {verbs others : List Verb} {text part : String}
  {pieces : List String}

/-! ## Cutting and joining -/

theorem map_toList_parts (text : String) :
    (parts text).map String.toList = text.toList.splitOn '-' := by
  unfold parts
  rw [Text.splitOn_eq_splitOn, List.map_map]
  exact List.map_id'' (fun piece => String.toList_ofList) _

theorem parts_ne_nil (text : String) : parts text ≠ [] := by
  unfold parts
  rw [ne_eq, List.map_eq_nil_iff]
  exact Text.splitOn_ne_nil _ _

theorem dash_notMem_of_mem_parts (hpart : part ∈ parts text) : '-' ∉ part.toList := by
  obtain ⟨piece, hpiece, rfl⟩ := List.mem_map.mp hpart
  rw [String.toList_ofList]
  intro hdash
  simpa using (Text.of_mem_splitOn hpiece hdash).2

theorem intercalate_parts (text : String) : "-".intercalate (parts text) = text := by
  rw [← String.toList_inj, String.toList_intercalate, map_toList_parts]
  exact List.intercalate_splitOn '-'

theorem parts_intercalate (hsome : pieces ≠ []) (hplain : ∀ piece ∈ pieces, '-' ∉ piece.toList) :
    parts ("-".intercalate pieces) = pieces := by
  refine (List.map_inj_right fun _ _ => String.toList_inj.mp).mp ?_
  rw [map_toList_parts, String.toList_intercalate]
  refine List.splitOn_intercalate '-' ?_ (by simpa using hsome)
  intro piece hpiece
  obtain ⟨part, hpart, rfl⟩ := List.mem_map.mp hpiece
  exact hplain part hpart

/-- The parts of a text are the only texts without a `-` that join to it. -/
theorem parts_eq_iff : parts text = pieces ↔
    pieces ≠ [] ∧ (∀ piece ∈ pieces, '-' ∉ piece.toList) ∧ "-".intercalate pieces = text := by
  constructor
  · rintro rfl
    exact ⟨parts_ne_nil text, fun piece => dash_notMem_of_mem_parts, intercalate_parts text⟩
  · rintro ⟨hsome, hplain, rfl⟩
    exact parts_intercalate hsome hplain

/-- A text with a `-` has several parts. -/
theorem hasSeveral_iff_parts : hasSeveral text = true ↔ 1 < (parts text).length := by
  cases hseveral : hasSeveral text with
  | false =>
      have hplain : '-' ∉ text.toList := by simpa [hasSeveral] using hseveral
      have hparts : parts text = [text] := parts_eq_iff.mpr (by simpa using hplain)
      simp [hparts]
  | true =>
      have hdash : '-' ∈ text.toList := by simpa [hasSeveral] using hseveral
      match hparts : parts text with
      | [] => exact absurd hparts (parts_ne_nil text)
      | [piece] =>
          -- a single part is the whole text
          have hplain := parts_eq_iff.mp hparts
          simp only [List.mem_singleton, forall_eq, String.intercalate_singleton] at hplain
          obtain ⟨-, hpiece, rfl⟩ := hplain
          exact absurd hdash hpiece
      | _ :: _ :: _ => simp

/-! ## Reading what was written -/

theorem parts_format (hsome : verbs ≠ []) : parts (format verbs) = verbs.map Verb.text := by
  refine parts_intercalate (by simpa using hsome) ?_
  intro piece hpiece
  obtain ⟨verb, -, rfl⟩ := List.mem_map.mp hpiece
  exact fun hdash => Verb.ne_of_mem_text hdash (by decide) rfl

theorem parse_eq_readEach (text : String) : parse text = readEach Verb.ofText? id (parts text) := by
  unfold parse readEach
  congr
  funext part
  cases Verb.ofText? part <;> rfl

theorem map_ofText?_eq_map_some_iff :
    pieces.map Verb.ofText? = verbs.map some ↔ pieces = verbs.map Verb.text := by
  induction pieces generalizing verbs with
  | nil => cases verbs <;> simp
  | cons piece pieces ih =>
      cases verbs with
      | nil => simp
      | cons verb verbs =>
          rw [List.map_cons, List.map_cons, List.map_cons, List.cons.injEq, List.cons.injEq, ih,
            Verb.ofText?_eq_some_iff, eq_comm (a := piece)]

theorem parse_eq_ok_iff_parts : parse text = .ok verbs ↔ parts text = verbs.map Verb.text := by
  rw [parse_eq_readEach, readEach_eq_ok_iff, map_ofText?_eq_map_some_iff]

/-- Reading the text of a combination gives its verbs. -/
theorem parse_format (hsome : verbs ≠ []) : parse (format verbs) = .ok verbs :=
  parse_eq_ok_iff_parts.mpr (parts_format hsome)

theorem format_inj (hverbs : verbs ≠ []) (hothers : others ≠ [])
    (hformat : format verbs = format others) : verbs = others := by
  have hparse := parse_format hverbs
  rw [hformat, parse_format hothers] at hparse
  exact (Except.ok.inj hparse).symm

/-! ## Reading any text -/

/-- A text is read as some verbs if it is their text. -/
theorem parse_eq_ok_iff : parse text = .ok verbs ↔ verbs ≠ [] ∧ format verbs = text := by
  constructor
  · intro hparse
    have hparts := parse_eq_ok_iff_parts.mp hparse
    have hsome : verbs.map Verb.text ≠ [] := hparts ▸ parts_ne_nil text
    refine ⟨by simpa using hsome, ?_⟩
    unfold format
    rw [← hparts, intercalate_parts]
  · rintro ⟨hsome, rfl⟩
    exact parse_format hsome

/-- A text is refused with the first of its parts that is no verb. -/
theorem parse_eq_error_iff : parse text = .error part ↔
    (parts text).find? (fun piece => piece ∉ Verb.all.map Verb.text) = some part := by
  rw [parse_eq_readEach, readEach_eq_error_iff]
  simp only [Verb.isNone_ofText?, id, exists_eq_right]

/-! ## Templates -/

theorem verbs_of_parse (hparse : parse template.text = .ok verbs) : template.verbs = verbs := by
  unfold Template.verbs
  rw [hparse]

theorem contains_iff_mem_verbs : template.contains verb = true ↔ verb ∈ template.verbs :=
  List.contains_iff_mem

/-! ## Both directions -/

/-- A text stands for some verbs: it is read as them, a `-` tells whether there are several, and
the templates under this text have them and no others. -/
structure Spells (text : String) (verbs : List Verb) : Prop where
  parse_eq : parse text = .ok verbs
  hasSeveral_iff : hasSeveral text = true ↔ 1 < verbs.length
  verbs_eq : ∀ template : Template, template.text = text → template.verbs = verbs
  contains_iff : ∀ template : Template, template.text = text →
    ∀ verb, template.contains verb = true ↔ verb ∈ verbs

theorem spells_format (hsome : verbs ≠ []) : Spells (format verbs) verbs := by
  have hverbs : ∀ template : Template, template.text = format verbs → template.verbs = verbs := by
    intro template htext
    exact verbs_of_parse (htext ▸ parse_format hsome)
  constructor
  case parse_eq => exact parse_format hsome
  case hasSeveral_iff => rw [hasSeveral_iff_parts, parts_format hsome, List.length_map]
  case verbs_eq => exact hverbs
  case contains_iff =>
    intro template htext verb
    rw [contains_iff_mem_verbs, hverbs template htext]

/-- Reading and writing undo each other. -/
structure ReadAsWritten : Prop where
  spells_format : ∀ verbs : List Verb, verbs ≠ [] → Spells (format verbs) verbs
  /-- A text is refused, or it is the text of what it is read as. -/
  refused_or_written : ∀ text : String, (∃ part, parse text = .error part) ∨
    ∃ verbs, parse text = .ok verbs ∧ verbs ≠ [] ∧ format verbs = text
  /-- It is refused with the first of its parts that is no verb. -/
  refused_iff : ∀ text part : String, parse text = .error part ↔
    (parts text).find? (fun piece => piece ∉ Verb.all.map Verb.text) = some part
  /-- Its parts are what stands between the `-`, empty parts included. -/
  parts_eq_iff : ∀ (text : String) (pieces : List String), parts text = pieces ↔
    pieces ≠ [] ∧ (∀ piece ∈ pieces, '-' ∉ piece.toList) ∧ "-".intercalate pieces = text
  /-- The texts that can be read are those of exactly one combination. -/
  accepted_iff : ∀ text : String, (∃ verbs, parse text = .ok verbs) ↔
    ∃! verbs : List Verb, verbs ≠ [] ∧ format verbs = text

theorem readAsWritten : ReadAsWritten := by
  constructor
  case spells_format => exact fun verbs => Template.spells_format
  case refused_or_written =>
    intro text
    cases hparse : parse text with
    | error part => exact .inl ⟨part, rfl⟩
    | ok verbs => exact .inr ⟨verbs, rfl, parse_eq_ok_iff.mp hparse⟩
  case refused_iff => exact fun text part => parse_eq_error_iff
  case parts_eq_iff => exact fun text pieces => Template.parts_eq_iff
  case accepted_iff =>
    intro text
    constructor
    · rintro ⟨verbs, hparse⟩
      obtain ⟨hsome, rfl⟩ := parse_eq_ok_iff.mp hparse
      refine ⟨verbs, ⟨hsome, rfl⟩, ?_⟩
      rintro others ⟨hothers, hformat⟩
      exact format_inj hothers hsome hformat
    · rintro ⟨verbs, hverbs, -⟩
      exact ⟨verbs, parse_eq_ok_iff.mpr hverbs⟩

/-- Neither a `-` at the end nor small letters are put right. -/
example : parse "POST-GET-" = .error "" ∧ parse "POST-Get" = .error "Get" := ⟨rfl, rfl⟩

end Template

end RestCatalog
