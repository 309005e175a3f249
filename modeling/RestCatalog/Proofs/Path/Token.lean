import RestCatalog.Path.Segment
import RestCatalog.Proofs.OrderedMap

/-!
# One token for each element

The tokens of a path are kept under their texts, so an element may lose its token to another
one.  If there are as many tokens as elements, none is lost: the tokens stand on the levels
from left to right, and each is a parameter if its element is (`covers_ofPath`).

Then a level and its segment find each other.  The segment at the level of a parameter, or at
the end of the path, is one of the segments of the path (`Covers.segmentAt_mem_segments`).  At
the end of a path that ends in a parameter there is no segment of its own: the last token
stands in, and that is the parameter.
-/

namespace RestCatalog

namespace PathToken

variable (splitting : Bool)

theorem map_level_ofElements (level : Nat) (before : Option Nat) (pending : List String)
    (elements : List PathElement) :
    (ofElements splitting level before pending elements).map PathToken.level =
      List.range' level elements.length := by
  induction elements generalizing level before pending with
  | nil => rfl
  | cons element rest ih =>
      cases element with
      | parameter name =>
          unfold ofElements
          rw [List.map_cons, ih, List.length_cons, List.range'_succ]
      | literal text =>
          unfold ofElements
          rw [List.map_cons, ih, List.length_cons, List.range'_succ]

/-- What the tokens say of the elements alone, whatever stands in front of them. -/
theorem map_ofElements {α : Type} {ofToken : PathToken → α} {ofElement : PathElement → α}
    (hparameter : ∀ name level before segment,
      ofToken ⟨name, level, true, before, segment, []⟩ = ofElement (.parameter name))
    (hliteral : ∀ text level before segment,
      ofToken ⟨text, level, false, before, segment,
        if splitting then Text.splitWords text else []⟩ = ofElement (.literal text))
    (level : Nat) (before : Option Nat) (pending : List String) (elements : List PathElement) :
    (ofElements splitting level before pending elements).map ofToken = elements.map ofElement := by
  induction elements generalizing level before pending with
  | nil => rfl
  | cons element rest ih =>
      cases element with
      | parameter name =>
          unfold ofElements
          rw [List.map_cons, ih, List.map_cons, hparameter]
      | literal text =>
          unfold ofElements
          rw [List.map_cons, ih, List.map_cons, hliteral]

theorem map_isParameter_ofElements (level : Nat) (before : Option Nat) (pending : List String)
    (elements : List PathElement) :
    (ofElements splitting level before pending elements).map PathToken.isParameter =
      elements.map PathElement.isParameter :=
  map_ofElements splitting (fun _ _ _ _ => rfl) (fun _ _ _ _ => rfl) level before pending elements

end PathToken

namespace TokenMap

variable {tokens : TokenMap} {path : Path} {token : PathToken} {level : Nat}

/-- The tokens of a path, one for each element. -/
structure Covers (tokens : TokenMap) (path : Path) : Prop where
  map_level : tokens.values.map PathToken.level = List.range path.levels
  map_isParameter :
    tokens.values.map PathToken.isParameter = path.elements.map PathElement.isParameter

/-- If there are as many tokens as elements, no token is lost on the way into the map. -/
theorem values_ofPath {splitting : Bool} (hsome : (ofPath path splitting).isEmpty = false)
    (hsize : (ofPath path splitting).size = path.levels) :
    (ofPath path splitting).values = PathToken.ofElements splitting 0 none [] path.elements := by
  unfold ofPath at hsome hsize ⊢
  split at hsome
  case isTrue => cases hsome
  case isFalse hliterals =>
    have hlength : (PathToken.ofElements splitting 0 none [] path.elements).length =
        path.levels := by
      rw [← List.length_map PathToken.level, PathToken.map_level_ofElements, List.length_range']
      rfl
    have hall := (OrderedMap.values_foldl_insert keyFor
      (PathToken.ofElements splitting 0 none [] path.elements) {}).2
    rw [if_neg hliterals] at hsize ⊢
    refine hall ?_
    rw [hlength]
    exact hsize.trans (Nat.zero_add _).symm

/-- As many tokens as elements are one for each. -/
theorem covers_ofPath {splitting : Bool} (hsome : (ofPath path splitting).isEmpty = false)
    (hsize : (ofPath path splitting).size = path.levels) : (ofPath path splitting).Covers path := by
  constructor
  case map_level =>
    rw [values_ofPath hsome hsize, PathToken.map_level_ofElements, List.range_eq_range']
    rfl
  case map_isParameter =>
    rw [values_ofPath hsome hsize, PathToken.map_isParameter_ofElements]

/-- Where no token has a level, the last one stands in. -/
theorem at?_of_forall_ne (hne : ∀ token ∈ tokens.values, token.level ≠ level) :
    tokens.at? level = tokens.values.getLast? := by
  have hnone : (tokens.values.find? fun token => token.level = level) = none :=
    List.find?_eq_none.mpr fun token htoken => by simpa using hne token htoken
  unfold at?
  rw [hnone]

namespace Covers

variable (covers : tokens.Covers path)
include covers

theorem level_lt (htoken : token ∈ tokens.values) : token.level < path.levels := by
  rw [← List.mem_range, ← covers.map_level]
  exact List.mem_map_of_mem htoken

/-- The token at a level is the one that has it. -/
theorem at?_level (htoken : token ∈ tokens.values) : tokens.at? token.level = some token := by
  obtain ⟨found, hfound⟩ : ∃ found,
      (tokens.values.find? fun other => other.level = token.level) = some found := by
    rw [← Option.isSome_iff_exists, List.find?_isSome]
    exact ⟨token, htoken, decide_eq_true rfl⟩
  have hlevel : found.level = token.level := by simpa using List.find?_some hfound
  have hnodup : (tokens.values.map PathToken.level).Nodup := by
    rw [covers.map_level]
    exact List.nodup_range
  unfold at?
  rw [hfound, List.inj_on_of_nodup_map hnodup (List.mem_of_find?_eq_some hfound) htoken hlevel]

/-- A path that ends in a parameter has it as its last token. -/
theorem exists_last (hends : path.endsInParameter = true) :
    ∃ token ∈ tokens.values, token.isParameter = true ∧ tokens.values.getLast? = some token := by
  unfold Path.endsInParameter at hends
  obtain ⟨element, helement, hparameter⟩ := (Option.any_eq_true _ _).mp hends
  have hlast : (tokens.values.map PathToken.isParameter).getLast? = some true := by
    rw [covers.map_isParameter, List.getLast?_map, helement, Option.map_some, hparameter]
  rw [List.getLast?_map] at hlast
  obtain ⟨token, htoken, hisParameter⟩ := Option.map_eq_some_iff.mp hlast
  exact ⟨token, List.mem_of_getLast? htoken, hisParameter, htoken⟩

/-- The segment of a parameter is one of those of the path. -/
theorem segmentAt_level_mem_segments (hsome : tokens.isEmpty = false)
    (htoken : token ∈ tokens.values) (hparameter : token.isParameter = true) (flat : Bool) :
    tokens.segmentAt token.level flat ∈ tokens.segments path flat := by
  have hlevel := covers.level_lt htoken
  have hany : (tokens.values.any fun other =>
      other.isParameter && decide (other.level = token.level)) = true :=
    List.any_eq_true.mpr ⟨token, htoken, by simp [hparameter]⟩
  unfold segments
  rw [if_neg (Bool.eq_false_iff.mp hsome)]
  refine List.mem_map_of_mem (List.mem_filter.mpr ⟨List.mem_range.mpr (by omega), ?_⟩)
  rw [hany, Bool.true_or]

/-- The segment at the level of a parameter or at the end is one of those of the path. -/
theorem segmentAt_mem_segments (hsome : tokens.isEmpty = false)
    (hlevel : level = path.levels ∨
      ∃ token ∈ tokens.values, token.isParameter = true ∧ token.level = level) (flat : Bool) :
    tokens.segmentAt level flat ∈ tokens.segments path flat := by
  rcases hlevel with rfl | ⟨token, htoken, hparameter, rfl⟩
  · cases hends : path.endsInParameter with
    | false =>
        unfold segments
        rw [if_neg (Bool.eq_false_iff.mp hsome)]
        refine List.mem_map_of_mem (List.mem_filter.mpr ⟨List.mem_range.mpr (by omega), ?_⟩)
        simp [hends]
    | true =>
        obtain ⟨token, htoken, hparameter, hlast⟩ := covers.exists_last hends
        -- the last token stands in for the end
        have hsame : tokens.at? path.levels = tokens.at? token.level := by
          rw [covers.at?_level htoken, ← hlast]
          exact at?_of_forall_ne fun other hother => Nat.ne_of_lt (covers.level_lt hother)
        have hsegment : tokens.segmentAt path.levels flat = tokens.segmentAt token.level flat := by
          unfold segmentAt
          rw [hsame]
        rw [hsegment]
        exact covers.segmentAt_level_mem_segments hsome htoken hparameter flat
  · exact covers.segmentAt_level_mem_segments hsome htoken hparameter flat

end Covers

end TokenMap

end RestCatalog
