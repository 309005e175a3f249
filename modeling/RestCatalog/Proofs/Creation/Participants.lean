import Mathlib.Data.List.Sort
import RestCatalog.Creation.Chain
import RestCatalog.Proofs.OrderedMap

/-!
# The participants of a chain

A chain is identified by the set of its participants, and the set is written down as
a strictly increasing list (`pairwise_sortedSet`) with the same members
(`mem_sortedSet`).  There is one such list for each set, so neither the order nor the
repetitions of the names matter: `sortedSet_congr`, and with it `signatureOf_congr` for
the text that stands for the set in the key of a chain.
-/

namespace RestCatalog

private theorem eraseDups_sublist {α : Type} [DecidableEq α] :
    ∀ items : List α, items.eraseDups.Sublist items
  | [] => by simp
  | first :: rest => by
      have hshorter : (rest.filter fun item => !item == first).length < rest.length + 1 :=
        Nat.lt_succ_of_le (List.length_filter_le _ _)
      rw [List.eraseDups_cons, List.cons_sublist_cons]
      exact (eraseDups_sublist _).trans List.filter_sublist
termination_by items => items.length

theorem mem_sortedSet {names : List String} {name : String} :
    name ∈ sortedSet names ↔ name ∈ names := by
  unfold sortedSet
  rw [List.mem_eraseDups, List.mem_mergeSort]

/-- The names stand in code point order, and none is repeated. -/
theorem pairwise_sortedSet (names : List String) : (sortedSet names).Pairwise (· < ·) := by
  have hsorted : (names.mergeSort fun a b => decide (a ≤ b)).Pairwise
      fun a b => decide (a ≤ b) = true := by
    apply List.pairwise_mergeSort
    · intro a b c hab hbc
      simp only [decide_eq_true_eq] at *
      exact String.le_trans hab hbc
    · intro a b
      simpa only [Bool.or_eq_true, decide_eq_true_eq] using String.le_total a b
  have hle : (sortedSet names).Pairwise fun a b => decide (a ≤ b) = true :=
    hsorted.sublist (eraseDups_sublist _)
  refine (hle.and (nodup_eraseDups _)).imp ?_
  rintro a b ⟨hab, hne⟩
  rw [← String.not_le]
  exact fun hba => hne (String.le_antisymm (of_decide_eq_true hab) hba)

/-- Two lists with the same members are the same set. -/
theorem sortedSet_congr {names others : List String} (hsame : ∀ name, name ∈ names ↔ name ∈ others) :
    sortedSet names = sortedSet others := by
  apply List.Subset.antisymm_of_pairwise (pairwise_sortedSet names) (pairwise_sortedSet others)
  · intro name hname
    rw [mem_sortedSet] at hname ⊢
    exact (hsame name).mp hname
  · intro name hname
    rw [mem_sortedSet] at hname ⊢
    exact (hsame name).mpr hname

theorem signatureOf_congr {names others : List String}
    (hsame : ∀ name, name ∈ names ↔ name ∈ others) : signatureOf names = signatureOf others := by
  unfold signatureOf
  rw [sortedSet_congr hsame]

end RestCatalog
