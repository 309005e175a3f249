import RestCatalog.Proofs.Path.Variables

/-!
# The elements of a path

The elements of a path are what its text holds between slashes (`pieces`), and every element
keeps the text that it was read from (`PathElement.text_ofText`).  Slashes in a row, and slashes
at the ends, put no piece in and take none away (`pieces_around`).

So pieces can be put together to a path again: with a slash in front and one behind every piece,
nothing but slashes is stripped off (`elements_ofPieces`).  `initial` does so with the first
elements of a path, and `elements_initial` says that it has these and no others.
-/

namespace RestCatalog

open Text

namespace PathElement

theorem text_ofText (text : List Char) : (ofText text).text = String.ofList text := by
  unfold ofText
  cases hwhole : wholeName? text with
  | some name =>
      obtain ⟨rfl, -, -⟩ := eq_of_wholeName? hwhole
      apply String.toList_inj.mp
      simp [PathElement.text]
  | none => rfl

end PathElement

namespace Path

variable {text : List Char} {piece : List Char} {path : Path}

/-! ## Pieces between slashes -/

/-- The pieces of a text between slashes, without the empty ones. -/
def pieces (text : List Char) : List (List Char) :=
  (splitOn (· = '/') text).filter fun piece => !piece.isEmpty

theorem elements_eq (path : Path) :
    path.elements = (pieces path.text.toList).map PathElement.ofText := rfl

theorem pieces_slash (text : List Char) : pieces ('/' :: text) = pieces text := by
  unfold pieces
  rw [splitOn_cons_of_cut (decide_eq_true rfl)]
  exact List.filter_cons_of_neg (by simp)

theorem pieces_append_slash (text : List Char) : pieces (text ++ ['/']) = pieces text := by
  obtain ⟨before, last, first, after, htext, hslash, hboth⟩ := splitOn_append (· = '/') text ['/']
  obtain ⟨rfl, rfl⟩ : [] = first ∧ [[]] = after := List.cons.inj hslash
  unfold pieces
  rw [hboth, htext, List.append_nil, List.filter_append, List.filter_append]
  congr 1

/-- Slashes around a text make no piece. -/
theorem pieces_around {before after : List Char} (hbefore : ∀ c ∈ before, c = '/')
    (hafter : ∀ c ∈ after, c = '/') : pieces (before ++ text ++ after) = pieces text := by
  have hfront : pieces (before ++ text) = pieces text := by
    induction before with
    | nil => rfl
    | cons c before ih =>
        obtain rfl := hbefore c List.mem_cons_self
        rw [List.cons_append, pieces_slash, ih fun c hc => hbefore c (List.mem_cons_of_mem _ hc)]
  rw [← hfront]
  generalize before ++ text = rest
  induction after using List.reverseRecOn with
  | nil => rw [List.append_nil]
  | append_singleton after c ih =>
      obtain rfl := hafter c (by simp)
      rw [← List.append_assoc, pieces_append_slash,
        ih fun c hc => hafter c (List.mem_append_left _ hc)]

theorem pieces_stripChars (text : List Char) :
    pieces (stripChars (· = '/') text) = pieces text := by
  obtain ⟨before, after, hbefore, hafter, htext⟩ := exists_around_stripChars (· = '/') text
  conv_rhs => rw [htext]
  exact (pieces_around (fun c hc => of_decide_eq_true (hbefore c hc))
    fun c hc => of_decide_eq_true (hafter c hc)).symm

theorem of_mem_pieces (hpiece : piece ∈ pieces text) : piece ≠ [] ∧ '/' ∉ piece := by
  obtain ⟨hsplit, hsome⟩ := List.mem_filter.mp hpiece
  refine ⟨by simpa using hsome, ?_⟩
  intro hslash
  simpa using (of_mem_splitOn hsplit hslash).2

/-- A slash behind each of some pieces separates them. -/
theorem pieces_flatMap {parts : List (List Char)}
    (hparts : ∀ part ∈ parts, part ≠ [] ∧ '/' ∉ part) :
    pieces (parts.flatMap (· ++ ['/'])) = parts := by
  induction parts with
  | nil => rfl
  | cons part parts ih =>
      obtain ⟨hsome, hslash⟩ := hparts part List.mem_cons_self
      have hkept : ∀ c ∈ part, decide (c = '/') = false := fun c hc =>
        decide_eq_false fun heq => hslash (heq ▸ hc)
      have hrest : pieces (parts.flatMap (· ++ ['/'])) = parts :=
        ih fun other hother => hparts other (List.mem_cons_of_mem _ hother)
      unfold pieces at hrest ⊢
      rw [List.flatMap_cons, List.append_assoc, List.singleton_append,
        splitOn_append_cons hkept (decide_eq_true rfl),
        List.filter_cons_of_pos (by simpa using hsome), hrest]

/-! ## Pieces put together -/

/-- The path with given pieces.  The slash behind the last one shields white space at its end. -/
def ofPieces (parts : List (List Char)) : Path :=
  ofText (String.ofList ('/' :: parts.flatMap (· ++ ['/'])))

private theorem stripped_joined (parts : List (List Char)) :
    Stripped isBlank ('/' :: parts.flatMap (· ++ ['/'])) := by
  have hslash : isBlank '/' = false := by decide
  constructor
  case head_kept =>
    intro c hc
    obtain rfl := Option.some.inj hc
    exact hslash
  case last_kept =>
    intro c hc
    have hlast : ('/' :: parts.flatMap (· ++ ['/'])).getLast? = some '/' := by
      rcases List.eq_nil_or_concat parts with rfl | ⟨others, last, rfl⟩
      · rfl
      · rw [List.concat_eq_append, List.flatMap_append, List.flatMap_singleton,
          ← List.append_assoc, ← List.cons_append, List.getLast?_concat]
    obtain rfl := Option.some.inj (hlast.symm.trans hc)
    exact hslash

theorem elements_ofPieces {parts : List (List Char)}
    (hparts : ∀ part ∈ parts, part ≠ [] ∧ '/' ∉ part) :
    (ofPieces parts).elements = parts.map PathElement.ofText := by
  unfold ofPieces
  rw [elements_eq, toList_text_ofText, String.toList_ofList,
    stripChars_of_stripped (stripped_joined parts), pieces_slash, pieces_stripChars, pieces_slash,
    pieces_flatMap hparts]

/-! ## The first elements of a path -/

theorem text_of_mem {element : PathElement} (helement : element ∈ path.elements) :
    element.text.toList ≠ [] ∧ '/' ∉ element.text.toList := by
  obtain ⟨piece, hpiece, rfl⟩ := List.mem_map.mp (elements_eq path ▸ helement)
  rw [PathElement.text_ofText, String.toList_ofList]
  exact of_mem_pieces hpiece

/-- An element is what its own text is read as. -/
theorem ofText_text_of_mem {element : PathElement} (helement : element ∈ path.elements) :
    PathElement.ofText element.text.toList = element := by
  obtain ⟨piece, -, rfl⟩ := List.mem_map.mp (elements_eq path ▸ helement)
  rw [PathElement.text_ofText, String.toList_ofList]

/-- The path of the first elements of a path. -/
def initial (path : Path) (count : Nat) : Path :=
  ofPieces ((path.elements.take count).map fun element => element.text.toList)

theorem elements_initial (path : Path) (count : Nat) :
    (path.initial count).elements = path.elements.take count := by
  have hmem : ∀ element ∈ path.elements.take count, element ∈ path.elements := fun _ =>
    List.mem_of_mem_take
  unfold initial
  rw [elements_ofPieces (List.forall_mem_map.mpr fun element helement =>
    text_of_mem (hmem element helement)), List.map_map]
  refine (List.map_congr_left fun element helement => ?_).trans (List.map_id _)
  exact ofText_text_of_mem (hmem element helement)

end Path

end RestCatalog
