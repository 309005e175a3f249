import RestCatalog.Proofs.Path.Order

/-!
# The shape of a path

Paths are compared up to the names of their parameters.  The `shape` of a path is what
such a comparison sees: its elements in order, with every parameter nameless.

* Equivalent paths are those of one shape (`isEquivalent_iff`), and the ancestors of a
  path are those whose shape is a strict initial part of its own (`isAncestor_iff_shape`).
* The ancestors of one path therefore lie on one line: of two of them the one with fewer
  levels is an ancestor of the other (`isAncestor_of_levels_lt`), and equally deep ones
  have one shape (`shape_eq_of_levels_eq`).
* What a path says about dependencies is a matter of its shape (`needsDependency_congr`).
-/

namespace RestCatalog

namespace PathElement

/-- The text of a literal; a parameter has none. -/
def shape : PathElement → Option String
  | .parameter _ => none
  | .literal text => some text

theorem fits_iff {a b : PathElement} : a.fits b = true ↔ a.shape = b.shape := by
  cases a <;> cases b <;> simp [fits, shape]

/-- Elements of one shape embed as many variables. -/
theorem length_placeholders_congr {a b : PathElement} (hshape : a.shape = b.shape) :
    a.placeholders.length = b.placeholders.length := by
  cases a <;> cases b <;> simp_all [shape, placeholders]

theorem isParameter_congr {a b : PathElement} (hshape : a.shape = b.shape) :
    a.isParameter = b.isParameter := by
  cases a <;> cases b <;> simp_all [shape, isParameter]

end PathElement

namespace Path

variable {a b c : Path}

def shape (path : Path) : List (Option String) := path.elements.map PathElement.shape

@[simp]
theorem length_shape (path : Path) : path.shape.length = path.levels := by
  unfold shape levels
  rw [List.length_map]

theorem getElem?_shape (path : Path) (i : Nat) :
    path.shape[i]? = path.elements[i]?.map PathElement.shape := by
  unfold shape
  rw [List.getElem?_map]

/-! ## Comparing shapes -/

/-- The elements of a path fit those of one that is no shorter if its shape begins the other's. -/
theorem fitTogether_iff_shape (hlevels : a.levels ≤ b.levels) :
    fitTogether a.elements b.elements = true ↔ a.shape <+: b.shape := by
  rw [fitTogether_iff, List.prefix_iff_getElem?]
  constructor
  · intro hfits i hshort
    have hi : i < a.elements.length := by rwa [length_shape] at hshort
    have hi' : i < b.elements.length := Nat.lt_of_lt_of_le hi hlevels
    have hx : a.elements[i]? = some a.elements[i] := List.getElem?_eq_getElem hi
    have hy : b.elements[i]? = some b.elements[i] := List.getElem?_eq_getElem hi'
    have hshape := PathElement.fits_iff.mp (hfits i _ _ hx hy)
    rw [← List.getElem?_eq_getElem hshort, getElem?_shape, getElem?_shape, hx, hy, Option.map_some,
      Option.map_some, hshape]
  · intro hprefix i x y hx hy
    have hi : i < a.shape.length := by
      rw [length_shape]
      exact (List.getElem?_eq_some_iff.mp hx).1
    have hshape := hprefix i hi
    rw [← List.getElem?_eq_getElem hi, getElem?_shape, getElem?_shape, hx, hy, Option.map_some,
      Option.map_some, Option.some.injEq] at hshape
    exact PathElement.fits_iff.mpr hshape.symm

theorem isEquivalent_iff : a.isEquivalent b = true ↔ a.shape = b.shape := by
  unfold isEquivalent
  rw [Bool.and_eq_true, decide_eq_true_eq]
  constructor
  · rintro ⟨hlevels, hfits⟩
    refine ((fitTogether_iff_shape (Nat.le_of_eq hlevels)).mp hfits).eq_of_length ?_
    rw [length_shape, length_shape, hlevels]
  · intro hshape
    have hlevels : a.levels = b.levels := by rw [← length_shape, hshape, length_shape]
    have hprefix : a.shape <+: b.shape := hshape ▸ List.prefix_refl _
    exact ⟨hlevels, (fitTogether_iff_shape (Nat.le_of_eq hlevels)).mpr hprefix⟩

/-- An ancestor has a strict initial part of the shape. -/
theorem isAncestor_iff_shape :
    a.isAncestor b = true ↔ a.levels < b.levels ∧ a.shape <+: b.shape := by
  unfold isAncestor
  rw [Bool.and_eq_true, decide_eq_true_eq]
  constructor
  · rintro ⟨hlevels, hfits⟩
    exact ⟨hlevels, (fitTogether_iff_shape (Nat.le_of_lt hlevels)).mp hfits⟩
  · rintro ⟨hlevels, hprefix⟩
    exact ⟨hlevels, (fitTogether_iff_shape (Nat.le_of_lt hlevels)).mpr hprefix⟩

theorem levels_congr (hshape : a.shape = b.shape) : a.levels = b.levels := by
  rw [← length_shape, hshape, length_shape]

theorem isAncestor_congr (ha : a.shape = b.shape) {d : Path} (hc : c.shape = d.shape) :
    a.isAncestor c = b.isAncestor d := by
  rw [Bool.eq_iff_iff, isAncestor_iff_shape, isAncestor_iff_shape, levels_congr ha, levels_congr hc,
    ha, hc]

/-! ## The ancestors of one path -/

/-- Of two ancestors of a path the one with fewer levels is an ancestor of the other. -/
theorem isAncestor_of_levels_lt (ha : a.isAncestor c = true) (hb : b.isAncestor c = true)
    (hlevels : a.levels < b.levels) : a.isAncestor b = true := by
  rw [isAncestor_iff_shape] at ha hb ⊢
  refine ⟨hlevels, List.prefix_of_prefix_length_le ha.2 hb.2 ?_⟩
  rw [length_shape, length_shape]
  exact Nat.le_of_lt hlevels

theorem shape_eq_of_levels_eq (ha : a.isAncestor c = true) (hb : b.isAncestor c = true)
    (hlevels : a.levels = b.levels) : a.shape = b.shape := by
  rw [isAncestor_iff_shape] at ha hb
  have hlength : a.shape.length = b.shape.length := by rw [length_shape, length_shape, hlevels]
  exact (List.prefix_of_prefix_length_le ha.2 hb.2 (Nat.le_of_eq hlength)).eq_of_length hlength

/-! ## Variables and dependencies -/

/-- The elements of paths of one shape agree in whatever their shapes decide. -/
private theorem map_elements_congr {α : Type} {f : PathElement → α}
    (hf : ∀ x y : PathElement, x.shape = y.shape → f x = f y) (hshape : a.shape = b.shape) :
    a.elements.map f = b.elements.map f := by
  apply List.ext_getElem?
  intro i
  have hat : a.elements[i]?.map PathElement.shape = b.elements[i]?.map PathElement.shape := by
    rw [← getElem?_shape, ← getElem?_shape, hshape]
  rw [List.getElem?_map, List.getElem?_map]
  cases hx : a.elements[i]? <;> cases hy : b.elements[i]? <;> simp [hx, hy] at hat ⊢
  exact hf _ _ hat

theorem length_variableNames_congr (hshape : a.shape = b.shape) :
    a.variableNames.length = b.variableNames.length := by
  unfold variableNames
  rw [List.length_flatMap, List.length_flatMap,
    map_elements_congr (fun _ _ => PathElement.length_placeholders_congr) hshape]

/-- A path has variables if it names any. -/
theorem hasVariables_iff (path : Path) : path.hasVariables = true ↔ path.variableNames ≠ [] := by
  unfold hasVariables variableNames
  simp

theorem hasVariables_congr (hshape : a.shape = b.shape) : a.hasVariables = b.hasVariables := by
  rw [Bool.eq_iff_iff, hasVariables_iff, hasVariables_iff, ne_eq, ne_eq, ← List.length_eq_zero_iff,
    ← List.length_eq_zero_iff, length_variableNames_congr hshape]

theorem endsInParameter_congr (hshape : a.shape = b.shape) :
    a.endsInParameter = b.endsInParameter := by
  have hlast : ∀ path : Path, path.endsInParameter =
      (path.elements.map PathElement.isParameter).getLast?.any id := by
    intro path
    unfold endsInParameter
    rw [List.getLast?_map, Option.any_map]
    rfl
  rw [hlast, hlast, map_elements_congr (fun _ _ => PathElement.isParameter_congr) hshape]

theorem needsDependency_congr (hshape : a.shape = b.shape) :
    a.needsDependency = b.needsDependency := by
  unfold needsDependency
  rw [hasVariables_congr hshape, endsInParameter_congr hshape, length_variableNames_congr hshape]

end Path

end RestCatalog
