import RestCatalog.Proofs.Path.Shape
import RestCatalog.Proofs.Text.Split
import RestCatalog.Proofs.Text.Strip

/-!
# The variables of a path

Which variables a path has is a matter of its text between the slashes: they are the names in
braces there, whether an element is a parameter or only embeds them (`variableNames_eq`).

Making a path of a text takes blanks and slashes away from its ends, and neither is part of a
name.  So a path has the variables of the text that it was made of (`variableNames_ofText`),
and making a path of its text once more, which may lead to another path, leaves the
variables as they are (`hasVariables_ofText_text`).
-/

namespace RestCatalog

open Text

namespace PathElement

variable {text tail name seen : List Char} {pending : Option (List Char)} {c : Char}

/-! ## Names in braces -/

/-- No name begins before the first opening brace. -/
theorem namesInBraces_cons (hopen : c ≠ '\x7b') :
    namesInBraces none (c :: text) = namesInBraces none text := by
  rw [namesInBraces, if_neg hopen]

theorem namesInBraces_of_unclosed (hclosing : '\x7d' ∉ tail) : namesInBraces pending tail = [] := by
  induction tail generalizing pending with
  | nil => rfl
  | cons c tail ih =>
      rw [List.mem_cons, not_or] at hclosing
      have hclose : ¬ c = '\x7d' := Ne.symm hclosing.1
      cases pending <;> simp [namesInBraces, hclose, ih hclosing.2]

/-- No name ends behind the last closing brace. -/
theorem namesInBraces_append (hclosing : '\x7d' ∉ tail) :
    namesInBraces pending (text ++ tail) = namesInBraces pending text := by
  induction text generalizing pending with
  | nil => exact namesInBraces_of_unclosed hclosing
  | cons c text ih => cases pending <;> simp [namesInBraces, ih]

private theorem namesInBraces_name (hname : ∀ c ∈ name, isBrace c = false)
    (hsome : seen.reverse ++ name ≠ []) :
    namesInBraces (some seen) (name ++ ['\x7d']) = [seen.reverse ++ name] := by
  induction name generalizing seen with
  | nil =>
      have hseen : seen ≠ [] := by simpa using hsome
      simp [namesInBraces, hseen]
  | cons c name ih =>
      have hc : isBrace c = false := hname c List.mem_cons_self
      simp only [isBrace, Bool.or_eq_false_iff, decide_eq_false_iff_not] at hc
      have hrest : namesInBraces (some (c :: seen)) (name ++ ['\x7d']) =
          [(c :: seen).reverse ++ name] :=
        ih (fun d hd => hname d (List.mem_cons_of_mem _ hd)) (by simp)
      simp [namesInBraces, hc.1, hc.2, hrest]

theorem eq_of_wholeName? (hwhole : wholeName? text = some name) :
    text = '\x7b' :: (name ++ ['\x7d']) ∧ name ≠ [] ∧ ∀ c ∈ name, isBrace c = false := by
  unfold wholeName? at hwhole
  split at hwhole
  case h_1 rest =>
    simp only [Option.ite_none_right_eq_some, Option.some.injEq, Bool.and_eq_true,
      Bool.not_eq_true', List.isEmpty_eq_false_iff, decide_eq_true_eq] at hwhole
    obtain ⟨⟨hsome, hbehind⟩, rfl⟩ := hwhole
    refine ⟨?_, hsome, ?_⟩
    · rw [← hbehind, List.takeWhile_append_dropWhile]
    · exact fun c hc => by simpa using List.mem_takeWhile_imp hc
  case h_2 => cases hwhole

/-- A parameter has its name in braces, a literal those that it embeds. -/
theorem placeholders_ofText (text : List Char) :
    (ofText text).placeholders = (namesInBraces none text).map String.ofList := by
  unfold ofText
  cases hwhole : wholeName? text with
  | some name =>
      obtain ⟨rfl, hsome, hname⟩ := eq_of_wholeName? hwhole
      have hnames : namesInBraces (some []) (name ++ ['\x7d']) = [name] :=
        namesInBraces_name hname (by simpa using hsome)
      simp [placeholders, namesInBraces, hnames]
  | none => simp [placeholders]

end PathElement

namespace Path

variable {before text tail : List Char} {c : Char} {drop : Char → Bool} {a b path : Path}

/-! ## Names between slashes -/

/-- The names that a text has in braces, each between two slashes. -/
def namesBetweenSlashes (text : List Char) : List (List Char) :=
  (splitOn (· = '/') text).flatMap (PathElement.namesInBraces none)

/-- An empty piece makes no element, and has no names either. -/
private theorem flatMap_placeholders_ofText (pieces : List (List Char)) :
    (pieces.filter fun piece => !piece.isEmpty).flatMap
        (fun piece => (PathElement.ofText piece).placeholders) =
      (pieces.flatMap (PathElement.namesInBraces none)).map String.ofList := by
  induction pieces with
  | nil => rfl
  | cons piece pieces ih =>
      rw [List.flatMap_cons, List.map_append, ← ih, ← PathElement.placeholders_ofText]
      cases piece with
      | nil => rfl
      | cons c piece => rfl

theorem variableNames_eq (path : Path) :
    path.variableNames = (namesBetweenSlashes path.text.toList).map String.ofList := by
  unfold variableNames elements namesBetweenSlashes
  rw [List.flatMap_map]
  exact flatMap_placeholders_ofText _

theorem namesBetweenSlashes_cons (hopen : c ≠ '\x7b') :
    namesBetweenSlashes (c :: text) = namesBetweenSlashes text := by
  unfold namesBetweenSlashes
  by_cases hslash : c = '/'
  · rw [splitOn_cons_of_cut (decide_eq_true hslash), List.flatMap_cons]
    rfl
  · obtain ⟨first, pieces, htext⟩ := List.exists_cons_of_ne_nil (splitOn_ne_nil (· = '/') text)
    rw [splitOn_cons_of_kept (decide_eq_false hslash) htext, htext, List.flatMap_cons,
      List.flatMap_cons, PathElement.namesInBraces_cons hopen]

/-- A text without opening braces may stand in front. -/
theorem namesBetweenSlashes_append_left (hopening : '\x7b' ∉ before) :
    namesBetweenSlashes (before ++ text) = namesBetweenSlashes text := by
  induction before with
  | nil => rfl
  | cons c before ih =>
      rw [List.mem_cons, not_or] at hopening
      rw [List.cons_append, namesBetweenSlashes_cons (Ne.symm hopening.1), ih hopening.2]

/-- A text without closing braces may follow. -/
theorem namesBetweenSlashes_append_right (hclosing : '\x7d' ∉ tail) :
    namesBetweenSlashes (text ++ tail) = namesBetweenSlashes text := by
  obtain ⟨before, last, first, after, htext, htail, hboth⟩ := splitOn_append (· = '/') text tail
  have hunclosed : ∀ piece ∈ first :: after, '\x7d' ∉ piece := fun piece hpiece hc =>
    hclosing (of_mem_splitOn (htail ▸ hpiece) hc).1
  have hafter : after.flatMap (PathElement.namesInBraces none) = [] := by
    rw [List.flatMap_eq_nil_iff]
    exact fun piece hpiece => PathElement.namesInBraces_of_unclosed
      (hunclosed piece (List.mem_cons_of_mem _ hpiece))
  unfold namesBetweenSlashes
  rw [hboth, htext, List.flatMap_append, List.flatMap_append, List.flatMap_cons,
    List.flatMap_singleton, hafter, List.append_nil,
    PathElement.namesInBraces_append (hunclosed first List.mem_cons_self)]

/-- Stripping takes no name away if it leaves braces alone. -/
theorem namesBetweenSlashes_stripChars (hopen : drop '\x7b' = false)
    (hclose : drop '\x7d' = false) (text : List Char) :
    namesBetweenSlashes (stripChars drop text) = namesBetweenSlashes text := by
  obtain ⟨before, after, hbefore, hafter, htext⟩ := exists_around_stripChars drop text
  have hopening : '\x7b' ∉ before := fun hmem =>
    Bool.false_ne_true (hopen.symm.trans (hbefore _ hmem))
  have hclosing : '\x7d' ∉ after := fun hmem =>
    Bool.false_ne_true (hclose.symm.trans (hafter _ hmem))
  conv_rhs => rw [htext]
  rw [namesBetweenSlashes_append_right hclosing, namesBetweenSlashes_append_left hopening]

/-! ## Making a path of a text -/

theorem toList_text_ofText (text : String) : (ofText text).text.toList =
    '/' :: stripChars (· = '/') (stripChars isBlank text.toList) := by
  simp [ofText]

/-- A path has the variables of the text that it was made of. -/
theorem variableNames_ofText (text : String) :
    (ofText text).variableNames = (namesBetweenSlashes text.toList).map String.ofList := by
  rw [variableNames_eq, toList_text_ofText, namesBetweenSlashes_cons (by decide),
    namesBetweenSlashes_stripChars (by decide) (by decide),
    namesBetweenSlashes_stripChars (by decide) (by decide)]

/-- A path that is made of its own text anew may change, but not in its variables. -/
theorem hasVariables_ofText_text (text : String) :
    (ofText (ofText text).text).hasVariables = (ofText text).hasVariables := by
  rw [Bool.eq_iff_iff, hasVariables_iff, hasVariables_iff, variableNames_ofText, variableNames_eq]

/-! ## Variables above a path -/

/-- The variables of an ancestor stand in the path itself, if under other names. -/
theorem hasVariables_of_isAncestor (habove : a.isAncestor b = true)
    (hvariables : a.hasVariables = true) : b.hasVariables = true := by
  unfold hasVariables at hvariables ⊢
  obtain ⟨hlevels, hfits⟩ := isAncestor_iff.mp habove
  obtain ⟨x, hx, hsome⟩ := List.any_eq_true.mp hvariables
  obtain ⟨i, hi, rfl⟩ := List.mem_iff_getElem.mp hx
  have hi' : i < b.elements.length := Nat.lt_trans hi hlevels
  have hshape := PathElement.fits_iff.mp (hfits i _ _ (List.getElem?_eq_getElem hi)
    (List.getElem?_eq_getElem hi'))
  refine List.any_eq_true.mpr ⟨b.elements[i], List.getElem_mem hi', ?_⟩
  rw [Bool.not_eq_true', List.isEmpty_eq_false_iff, ← List.length_pos_iff] at hsome ⊢
  rwa [← PathElement.length_placeholders_congr hshape]

theorem needsDependency_of_hasVariables_eq_false (hnone : path.hasVariables = false) :
    path.needsDependency = false := by
  have hnames : path.variableNames = [] := by
    by_contra hsome
    rw [(hasVariables_iff path).mpr hsome] at hnone
    cases hnone
  unfold needsDependency
  simp [hnone, hnames]

end Path

end RestCatalog
