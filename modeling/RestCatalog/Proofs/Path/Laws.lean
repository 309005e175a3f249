import RestCatalog.Proofs.Path.Elements
import RestCatalog.Proofs.Path.Shape

/-!
# The laws of comparing paths

Equivalence and ancestry both compare elements, parameters by their kind and literals by their
text, and both are a matter of shapes: equivalent paths have one shape, and the shape of an
ancestor is a strict initial part.  Equality of lists is an equivalence and to be a strict
initial part is a strict order, and the laws of paths are theirs.

* `isAncestor_iff_initial` ties the two relations to each other: an ancestor is shorter, and
  equivalent to the path of the first elements.
* `isEquivalent_or_isAncestor`: the ancestors of one path lie on one line.
* `SameOutline` collects what equivalent paths agree on.

`comparison_lawful` puts the laws together.
-/

namespace RestCatalog

namespace Path

variable {a b c : Path}

theorem shape_initial (path : Path) (count : Nat) :
    (path.initial count).shape = path.shape.take count := by
  unfold shape
  rw [elements_initial, List.map_take]

/-! ## Equivalence -/

theorem isEquivalent_equivalence : Equivalence fun a b : Path => a.isEquivalent b = true where
  refl _ := isEquivalent_iff.mpr rfl
  symm hab := isEquivalent_iff.mpr (isEquivalent_iff.mp hab).symm
  trans hab hbc :=
    isEquivalent_iff.mpr ((isEquivalent_iff.mp hab).trans (isEquivalent_iff.mp hbc))

/-- What paths that differ in the names of parameters at most agree on. -/
structure SameOutline (a b : Path) : Prop where
  levels_eq : a.levels = b.levels
  hasVariables_eq : a.hasVariables = b.hasVariables
  endsInParameter_eq : a.endsInParameter = b.endsInParameter
  length_variableNames_eq : a.variableNames.length = b.variableNames.length
  needsDependency_eq : a.needsDependency = b.needsDependency

theorem sameOutline_of_isEquivalent (hab : a.isEquivalent b = true) : SameOutline a b := by
  have hshape : a.shape = b.shape := isEquivalent_iff.mp hab
  exact ⟨levels_congr hshape, hasVariables_congr hshape, endsInParameter_congr hshape,
    length_variableNames_congr hshape, needsDependency_congr hshape⟩

/-! ## Ancestry -/

theorem isAncestor_asymm (hab : a.isAncestor b = true) : b.isAncestor a = false := by
  rw [Bool.eq_false_iff]
  intro hba
  have hself : a.isAncestor a = true := isAncestor_trans hab hba
  rw [not_isAncestor_self] at hself
  cases hself

/-- An ancestor is equivalent to the path of as many first elements. -/
theorem isAncestor_iff_initial :
    a.isAncestor b = true ↔ a.levels < b.levels ∧ a.isEquivalent (b.initial a.levels) = true := by
  rw [isAncestor_iff_shape, isEquivalent_iff, shape_initial, List.prefix_iff_eq_take,
    length_shape]

theorem isEquivalent_or_isAncestor (hac : a.isAncestor c = true) (hbc : b.isAncestor c = true) :
    a.isEquivalent b = true ∨ a.isAncestor b = true ∨ b.isAncestor a = true := by
  rcases Nat.lt_trichotomy a.levels b.levels with hfewer | hsame | hmore
  · exact .inr (.inl (isAncestor_of_levels_lt hac hbc hfewer))
  · exact .inl (isEquivalent_iff.mpr (shape_eq_of_levels_eq hac hbc hsame))
  · exact .inr (.inr (isAncestor_of_levels_lt hbc hac hmore))

/-! ## All laws -/

/-- The laws that equivalence and ancestry of paths obey. -/
structure LawfulComparison : Prop where
  equivalence : Equivalence fun a b : Path => a.isEquivalent b = true
  ancestor_irrefl : ∀ a : Path, a.isAncestor a = false
  ancestor_asymm : ∀ a b : Path, a.isAncestor b = true → b.isAncestor a = false
  ancestor_trans : ∀ a b c : Path,
    a.isAncestor b = true → b.isAncestor c = true → a.isAncestor c = true
  /-- Either side may be replaced by an equivalent path. -/
  ancestor_congr : ∀ a a' b b' : Path,
    a.isEquivalent a' = true → b.isEquivalent b' = true → a.isAncestor b = a'.isAncestor b'
  /-- The first elements of a path make up a path. -/
  elements_initial : ∀ (b : Path) (count : Nat),
    (b.initial count).elements = b.elements.take count
  ancestor_iff : ∀ a b : Path, a.isAncestor b = true ↔
    a.levels < b.levels ∧ a.isEquivalent (b.initial a.levels) = true
  ancestors_in_line : ∀ a b c : Path, a.isAncestor c = true → b.isAncestor c = true →
    a.isEquivalent b = true ∨ a.isAncestor b = true ∨ b.isAncestor a = true
  equivalent_of_text : ∀ a b : Path, a.text = b.text → a.isEquivalent b = true
  sameOutline : ∀ a b : Path, a.isEquivalent b = true → SameOutline a b

theorem comparison_lawful : LawfulComparison := by
  constructor
  case equivalence => exact isEquivalent_equivalence
  case ancestor_irrefl => exact not_isAncestor_self
  case ancestor_asymm => exact fun a b => isAncestor_asymm
  case ancestor_trans => exact fun a b c => isAncestor_trans
  case ancestor_congr =>
    intro a a' b b' ha hb
    exact isAncestor_congr (isEquivalent_iff.mp ha) (isEquivalent_iff.mp hb)
  case elements_initial => exact Path.elements_initial
  case ancestor_iff => exact fun a b => isAncestor_iff_initial
  case ancestors_in_line => exact fun a b c => isEquivalent_or_isAncestor
  case equivalent_of_text =>
    intro a b htext
    -- a path is its text
    obtain rfl : a = b := by
      cases a
      cases b
      exact congrArg Path.mk htext
    exact isEquivalent_equivalence.refl a
  case sameOutline => exact fun a b => sameOutline_of_isEquivalent

end Path

end RestCatalog
