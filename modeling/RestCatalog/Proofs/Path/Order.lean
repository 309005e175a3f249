import RestCatalog.Path.Basic

/-!
# Paths under the ancestor relation

`Path.isAncestor` compares element by element, as far as the shorter path goes.
The whole development reads it through `isAncestor_iff`, which speaks of positions
instead of zipped lists: with positions, transitivity is a matter of naming the
element of the middle path (`isAncestor_trans`).

Main statements: an ancestor has fewer levels (`levels_lt_of_isAncestor`), no path is
its own ancestor (`not_isAncestor_self`), and an ancestor of an ancestor is an
ancestor (`isAncestor_trans`).
-/

namespace RestCatalog

namespace PathElement

theorem fits_trans {a b c : PathElement} (hab : a.fits b = true) (hbc : b.fits c = true) :
    a.fits c = true := by
  cases a <;> cases b <;> cases c <;> simp_all [fits]

end PathElement

namespace Path

/-- Two lists fit together if they do at every position that both have. -/
theorem fitTogether_iff {a b : List PathElement} :
    fitTogether a b = true ↔
      ∀ (i : Nat) (x y : PathElement), a[i]? = some x → b[i]? = some y → x.fits y = true := by
  unfold fitTogether
  rw [List.all_eq_true]
  constructor
  · intro hall i x y hx hy
    have hzip : (a.zip b)[i]? = some (x, y) := by
      rw [List.getElem?_zip_eq_some]
      exact ⟨hx, hy⟩
    exact hall (x, y) (List.mem_of_getElem? hzip)
  · rintro hfits ⟨x, y⟩ hmem
    obtain ⟨i, hi⟩ := List.mem_iff_getElem?.mp hmem
    rw [List.getElem?_zip_eq_some] at hi
    exact hfits i x y hi.1 hi.2

theorem isAncestor_iff {a b : Path} :
    a.isAncestor b = true ↔
      a.levels < b.levels ∧
        ∀ (i : Nat) (x y : PathElement),
          a.elements[i]? = some x → b.elements[i]? = some y → x.fits y = true := by
  unfold isAncestor
  rw [Bool.and_eq_true, decide_eq_true_eq, fitTogether_iff]

theorem levels_lt_of_isAncestor {a b : Path} (h : a.isAncestor b = true) :
    a.levels < b.levels :=
  (isAncestor_iff.mp h).1

theorem not_isAncestor_self (a : Path) : a.isAncestor a = false := by
  unfold isAncestor
  simp

/-- An ancestor of an ancestor is an ancestor. -/
theorem isAncestor_trans {a b c : Path} (hab : a.isAncestor b = true)
    (hbc : b.isAncestor c = true) : a.isAncestor c = true := by
  rw [isAncestor_iff] at hab hbc ⊢
  obtain ⟨hlevels, hfits⟩ := hab
  obtain ⟨hlevels', hfits'⟩ := hbc
  refine ⟨Nat.lt_trans hlevels hlevels', ?_⟩
  intro i x z hx hz
  -- the middle path is longer than `a`, so it has an element at `i` too
  have hi : i < b.elements.length := by
    have hia : i < a.elements.length := (List.getElem?_eq_some_iff.mp hx).1
    exact Nat.lt_trans hia hlevels
  have hy : b.elements[i]? = some b.elements[i] := List.getElem?_eq_getElem hi
  exact PathElement.fits_trans (hfits i x _ hx hy) (hfits' i _ z hy hz)

end Path

end RestCatalog
