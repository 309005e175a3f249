import RestCatalog.Call.Basic
import RestCatalog.Template.Basic

/-!
# Choices

Ties between calls and the selection of templates are decided by a source of
choices.  A `Chooser` is such a source together with a record of every list of
candidates that was put before it.
-/

namespace RestCatalog

/-- The candidates of one choice. -/
inductive Question where
  | calls (candidates : List Call)
  | templates (candidates : List Template)
deriving DecidableEq, Repr

/-- A source of choices: it draws one of `n + 1` candidates and moves on. -/
class ChoiceSource (σ : Type) where
  draw : σ → (n : Nat) → Fin (n + 1) × σ

/-- A source of choices and what it was asked so far, oldest first. -/
structure Chooser (σ : Type) where
  source : σ
  asked : List Question := []

namespace Chooser

variable {σ α : Type} [ChoiceSource σ]

/-- Chooses one of the candidates; none if there are none, which leaves the source alone. -/
def choose (question : List α → Question) (candidates : List α) (chooser : Chooser σ) :
    Option α × Chooser σ :=
  match candidates with
  | [] => (none, { chooser with asked := chooser.asked ++ [question []] })
  | first :: others =>
    let drawn := ChoiceSource.draw chooser.source others.length
    (some ((first :: others).get drawn.1),
      { source := drawn.2, asked := chooser.asked ++ [question (first :: others)] })

end Chooser

/-! ## Choices by a list of numbers -/

/-- A list of numbers that is read round and round: each is the index of a choice, counted
from the end if it is negative and round the candidates if it is too large. -/
structure Script where
  numbers : List Int
  position : Nat := 0
deriving Repr

/-- The index that a number means among `n + 1` candidates. -/
def Script.index (number : Int) (n : Nat) : Fin (n + 1) :=
  ⟨(number % ((n : Int) + 1)).toNat, by
    have hpositive : (0 : Int) < (n : Int) + 1 := by omega
    have hnonneg := Int.emod_nonneg number (Int.ne_of_gt hpositive)
    have hlt := Int.emod_lt_of_pos number hpositive
    omega⟩

instance : ChoiceSource Script where
  draw script n :=
    (Script.index (script.numbers.getD (script.position % script.numbers.length) 0) n,
      { script with position := script.position + 1 })

end RestCatalog
