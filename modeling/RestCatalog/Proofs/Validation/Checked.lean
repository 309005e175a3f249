import Mathlib.Data.List.Forall2
import RestCatalog.Validation.Basic

/-!
# Records that pass their checks

A record is valid exactly if each of its fields is (`map_eq_valid_iff`, `seq_eq_valid_iff`), and
a field that may be left out is what it is given as, or its default (`ifGiven_eq_valid_iff`).
A record that is not valid has the problems of its fields, in order (`problems_map`,
`problems_seq`), and each of them names its field (`within_of_mem_problems_ifGiven`).
-/

namespace RestCatalog

namespace Checked

variable {α β : Type} {result : β}

theorem map_eq_valid_iff {f : α → β} {checked : Checked α} :
    f <$> checked = .valid result ↔ ∃ value, checked = .valid value ∧ f value = result := by
  constructor
  · intro hvalid
    cases checked with
    | valid value => exact ⟨value, rfl, Checked.valid.inj hvalid⟩
    | rejected problems => cases hvalid
  · rintro ⟨value, rfl, rfl⟩
    rfl

/-- A record is valid if it was made by a function that is valid, of a value that is. -/
theorem seq_eq_valid_iff {made : Checked (α → β)} {checked : Checked α} :
    made <*> checked = .valid result ↔
      ∃ f value, made = .valid f ∧ checked = .valid value ∧ f value = result := by
  constructor
  · intro hvalid
    cases made with
    | rejected problems => cases checked <;> cases hvalid
    | valid f =>
        cases checked with
        | rejected problems => cases hvalid
        | valid value => exact ⟨f, value, rfl, rfl, Checked.valid.inj hvalid⟩
  · rintro ⟨f, value, rfl, rfl, rfl⟩
    rfl

theorem inField_eq_valid_iff {checked : Checked β} {field : String} :
    checked.inField field = .valid result ↔ checked = .valid result := by
  cases checked with
  | valid value => rfl
  | rejected problems => exact iff_of_false (fun h => nomatch h) (fun h => nomatch h)

/-! ## Problems -/

def problems : Checked α → List Problem
  | .valid _ => []
  | .rejected problems => problems

theorem problems_map (f : α → β) (checked : Checked α) :
    (f <$> checked).problems = checked.problems := by
  cases checked <;> rfl

theorem problems_seq (made : Checked (α → β)) (checked : Checked α) :
    (made <*> checked).problems = made.problems ++ checked.problems := by
  cases made with
  | valid f => cases checked <;> rfl
  | rejected problems =>
      cases checked with
      | valid value => exact (List.append_nil problems).symm
      | rejected more => rfl

end Checked

/-- The problem is one of the field, or of something that the field holds. -/
def Problem.Within (field : String) (problem : Problem) : Prop :=
  problem.location = field ∨ ∃ inner, problem.location = field ++ "." ++ inner

theorem Checked.within_of_mem_problems_inField {α : Type} {checked : Checked α} {field : String}
    {problem : Problem} (hproblem : problem ∈ (checked.inField field).problems) :
    problem.Within field := by
  cases checked with
  | valid value => cases hproblem
  | rejected problems =>
      obtain ⟨inner, -, rfl⟩ := List.mem_map.mp hproblem
      unfold Problem.Within Checked.locate
      dsimp only
      split
      case isTrue => exact .inl rfl
      case isFalse => exact .inr ⟨inner.location, rfl⟩

/-! ## Fields that may be left out -/

/-- What a field that may be left out is read as. -/
inductive Reads {V α : Type} (given : Option V) (readings : V → α → Prop) (default : α) : α → Prop
  | given {value : V} {result : α} : given = some value → readings value result →
      Reads given readings default result
  | absent : given = none → Reads given readings default default

/-- A given value is read as something. -/
def Accepts {V α : Type} (given : Option V) (readings : V → α → Prop) : Prop :=
  ∀ value, given = some value → ∃ result, readings value result

/-- A check reads a value as what it makes of it. -/
def Checked.Gives {V α : Type} (check : V → Checked α) (value : V) (result : α) : Prop :=
  check value = .valid result

section Given

variable {V α : Type} {given : Option V} {name : String} {check : V → Checked α}
  {readings : V → α → Prop} {default result : α}

theorem exists_reads_iff :
    (∃ result, Reads given readings default result) ↔ Accepts given readings := by
  constructor
  · rintro ⟨result, ⟨hgiven, hvalue⟩ | habsent⟩ value hsome
    · obtain rfl := Option.some.inj (hgiven.symm.trans hsome)
      exact ⟨result, hvalue⟩
    · rw [habsent] at hsome
      cases hsome
  · intro haccepts
    cases hgiven : given with
    | none => exact ⟨default, .absent rfl⟩
    | some value =>
        obtain ⟨result, hvalue⟩ := haccepts value hgiven
        exact ⟨result, .given rfl hvalue⟩

/-- What carries a proof of its own is read as what it carries the proof of. -/
theorem reads_subtype_iff {p : α → Prop} {least size : Subtype p} :
    Reads given (fun value result => readings value result.val) least size ↔
      Reads given readings least.val size.val := by
  constructor
  · rintro (⟨hgiven, hvalue⟩ | habsent)
    · exact .given hgiven hvalue
    · exact .absent habsent
  · intro hreads
    generalize hresult : size.val = result at hreads
    cases hreads with
    | given hgiven hvalue => exact .given hgiven (hresult ▸ hvalue)
    | absent habsent =>
        obtain rfl := Subtype.ext hresult
        exact .absent habsent

namespace Checked

theorem ifGiven_eq_valid_iff
    (hsame : ∀ value result, check value = .valid result ↔ readings value result) :
    ifGiven given name check default = .valid result ↔ Reads given readings default result := by
  constructor
  · intro hvalid
    cases given with
    | some value => exact .given rfl ((hsame _ _).mp (inField_eq_valid_iff.mp hvalid))
    | none =>
        obtain rfl := Checked.valid.inj hvalid
        exact .absent rfl
  · rintro (⟨rfl, hvalue⟩ | rfl)
    · exact inField_eq_valid_iff.mpr ((hsame _ _).mpr hvalue)
    · rfl

theorem within_of_mem_problems_ifGiven {problem : Problem}
    (hproblem : problem ∈ (ifGiven given name check default).problems) :
    problem.Within name := by
  cases given with
  | some value => exact within_of_mem_problems_inField hproblem
  | none => cases hproblem

end Checked

end Given

/-! ## Lists -/

namespace Checked

/-- A list passes if its items do, wherever the numbering of the items starts. -/
theorem each_eq_valid_iff {α : Type} {check : Document.Value → Checked α}
    {items : List Document.Value} {results : List α} : each check items = .valid results ↔
      List.Forall₂ (Gives check) items results := by
  unfold each
  generalize 0 = start
  induction items generalizing start results with
  | nil =>
      rw [List.forall₂_nil_left_iff]
      exact ⟨fun hvalid => (Checked.valid.inj hvalid).symm, fun hnil => hnil ▸ rfl⟩
  | cons item items ih =>
      rw [List.zipIdx_cons, List.map_cons, List.foldr_cons]
      show List.cons <$> (check item).inField (toString start) <*> _ = .valid results ↔ _
      rw [seq_eq_valid_iff, List.forall₂_cons_left_iff]
      constructor
      · rintro ⟨_, rest, hhead, hrest, rfl⟩
        obtain ⟨result, hresult, rfl⟩ := map_eq_valid_iff.mp hhead
        exact ⟨result, rest, inField_eq_valid_iff.mp hresult, (ih _).mp hrest, rfl⟩
      · rintro ⟨result, rest, hresult, hrest, rfl⟩
        have hhead : (check item).inField (toString start) = .valid result :=
          inField_eq_valid_iff.mpr hresult
        exact ⟨_, rest, map_eq_valid_iff.mpr ⟨result, hhead, rfl⟩, (ih _).mpr hrest, rfl⟩

end Checked

end RestCatalog
