import RestCatalog.Proofs.Path.Token
import RestCatalog.Proofs.Text.Words

/-!
# Segments are the runs of literals

The segments of a path are read off its tokens in two ways: the raw one of a token was joined
when the token was made, and the flat one is gathered from all tokens, by levels and nearest
parameters.  Both are meant to be the `runs` of literals between the parameters, and they are
if the map has one token for each element (`segments_eq_runs`).

* Segments end at parameters and at the end of the path, so there is one for each of the
  `endings` (`Covers.segments_eq_map_endings`).
* Going from left to right, `Gathered` says what stands in front: its literals since the last
  parameter are the pending ones.  The gathered literals of an ending are then those of its
  run, and its raw segment is the run joined (`Gathered.map_endings`).
-/

namespace RestCatalog

open Text

variable {splitting : Bool}

/-! ## Runs of literals -/

namespace PathElement

/-- The texts of the literals between parameters: a run in front of each parameter, and a last
one if the elements do not end with a parameter. -/
def runs : List PathElement → List (List String)
  | [] => []
  | .parameter _ :: rest => [] :: runs rest
  | .literal text :: rest =>
    match runs rest with
    | [] => [[text]]
    | run :: others => (text :: run) :: others

/-- The words of a literal, or its text in lower case if it has none. -/
def literalWords (splitting : Bool) (text : String) : List String :=
  if splitting && !(splitWords text).isEmpty then splitWords text else [lower text]

theorem runs_ne_nil (element : PathElement) (rest : List PathElement) :
    runs (element :: rest) ≠ [] := by
  cases element with
  | parameter name => exact List.cons_ne_nil _ _
  | literal text =>
      unfold runs
      split <;> exact List.cons_ne_nil _ _

theorem flatten_runs (elements : List PathElement) :
    (runs elements).flatten =
      (elements.filter fun element => !element.isParameter).map PathElement.text := by
  induction elements with
  | nil => rfl
  | cons element rest ih =>
      cases element with
      | parameter name =>
          rw [runs, List.flatten_cons, List.nil_append, ih]
          rfl
      | literal text =>
          rw [List.filter_cons_of_pos rfl, List.map_cons, ← ih, runs]
          split
          case h_1 hnil => simp [hnil, PathElement.text]
          case h_2 run others hruns => simp [hruns, PathElement.text]

theorem ne_empty_of_mem_literalWords {text word : String} (htext : text ≠ "")
    (hword : word ∈ literalWords splitting text) : word ≠ "" := by
  unfold literalWords at hword
  split at hword
  case isTrue => exact ne_empty_of_mem_splitWords hword
  case isFalse =>
    rw [List.mem_singleton.mp hword]
    exact lower_ne_empty htext

end PathElement

namespace Path

def runs (path : Path) : List (List String) := PathElement.runs path.elements

theorem flatten_runs (path : Path) : path.runs.flatten = path.literals :=
  PathElement.flatten_runs path.elements

/-- No literal of a path is empty. -/
theorem ne_empty_of_mem_literals {path : Path} {text : String} (htext : text ∈ path.literals) :
    text ≠ "" := by
  unfold literals elements at htext
  obtain ⟨element, helement, rfl⟩ := List.mem_map.mp htext
  obtain ⟨hmem, hliteral⟩ := List.mem_filter.mp helement
  obtain ⟨piece, hpiece, rfl⟩ := List.mem_map.mp hmem
  have hsome : piece ≠ [] := by simpa using (List.mem_filter.mp hpiece).2
  unfold PathElement.ofText at hliteral ⊢
  split at hliteral
  case h_1 => cases hliteral
  case h_2 => exact ofList_ne_empty hsome

end Path

/-! ## The tokens that end a segment -/

namespace PathToken

/-- The parameters among some tokens, and the last one. -/
def endings : List PathToken → List PathToken
  | [] => []
  | token :: rest =>
    if token.isParameter || rest.isEmpty then token :: endings rest else endings rest

theorem endings_singleton (token : PathToken) : endings [token] = [token] := by
  simp [endings]

theorem endings_cons_of_parameter {token : PathToken} {rest : List PathToken}
    (hparameter : token.isParameter = true) : endings (token :: rest) = token :: endings rest := by
  simp [endings, hparameter]

theorem endings_cons_of_literal {token : PathToken} {rest : List PathToken}
    (hliteral : token.isParameter = false) (hrest : rest ≠ []) :
    endings (token :: rest) = endings rest := by
  simp [endings, hliteral, hrest]

theorem endings_eq (tokens : List PathToken) :
    endings tokens = tokens.filter isParameter ++
      tokens.getLast?.toList.filter fun token => !token.isParameter := by
  induction tokens with
  | nil => rfl
  | cons token rest ih =>
      cases rest with
      | nil =>
          rw [endings_singleton]
          cases hparameter : token.isParameter <;> simp [hparameter]
      | cons next rest =>
          rw [List.getLast?_cons_cons]
          cases hparameter : token.isParameter with
          | true =>
              rw [endings_cons_of_parameter hparameter, ih, List.filter_cons_of_pos hparameter,
                List.cons_append]
          | false =>
              have hskip : (token :: next :: rest).filter isParameter =
                  (next :: rest).filter isParameter :=
                List.filter_cons_of_neg (by simp [hparameter])
              rw [endings_cons_of_literal hparameter (List.cons_ne_nil _ _), ih, hskip]

end PathToken

namespace TokenMap

variable {tokens : TokenMap} {path : Path}

namespace Covers

variable (covers : tokens.Covers path)
include covers

/-- A level is that of a parameter if its own token is one. -/
theorem any_parameter_level {token : PathToken} (htoken : token ∈ tokens.values) :
    (tokens.values.any fun other => other.isParameter && other.level = token.level) =
      token.isParameter := by
  rw [Bool.eq_iff_iff, List.any_eq_true]
  constructor
  · rintro ⟨other, hother, hsame⟩
    simp only [Bool.and_eq_true, decide_eq_true_eq] at hsame
    obtain ⟨hparameter, hlevel⟩ := hsame
    have hfound := covers.at?_level hother
    rw [hlevel, covers.at?_level htoken] at hfound
    rwa [Option.some.inj hfound]
  · intro hparameter
    exact ⟨token, htoken, by simp [hparameter]⟩

theorem endsInParameter_eq {last : PathToken} (hlast : tokens.values.getLast? = some last) :
    path.endsInParameter = last.isParameter := by
  have hmap : (path.elements.map PathElement.isParameter).getLast? = some last.isParameter := by
    rw [← covers.map_isParameter, List.getLast?_map, hlast, Option.map_some]
  rw [List.getLast?_map] at hmap
  obtain ⟨element, helement, hsame⟩ := Option.map_eq_some_iff.mp hmap
  unfold Path.endsInParameter
  rw [helement, Option.any_some, hsame]

/-- The segments of a path are those of the tokens that end one. -/
theorem segments_eq_map_endings (hsome : tokens.isEmpty = false) (flat : Bool) :
    tokens.segments path flat =
      (PathToken.endings tokens.values).map fun token => tokens.segmentOf token flat := by
  obtain ⟨last, hlast⟩ : ∃ last, tokens.values.getLast? = some last := by
    rw [← Option.isSome_iff_exists, List.getLast?_isSome]
    simpa [OrderedMap.isEmpty, OrderedMap.values] using hsome
  have hbelow : ∀ token ∈ tokens.values, token.level ≠ path.levels :=
    fun token htoken => Nat.ne_of_lt (covers.level_lt htoken)
  unfold segments segmentLevels
  rw [if_neg (Bool.eq_false_iff.mp hsome), List.range_succ, List.filter_append, List.map_append,
    PathToken.endings_eq, List.map_append]
  congr 1
  · -- the levels of the parameters
    rw [← covers.map_level, List.filter_map, List.map_map]
    have hparameters : tokens.values.filter
        ((fun level => (tokens.values.any fun token => token.isParameter && token.level = level) ||
          (!path.endsInParameter && level = path.levels)) ∘ PathToken.level) =
        tokens.values.filter PathToken.isParameter := by
      refine List.filter_congr fun token htoken => ?_
      simp [covers.any_parameter_level htoken, hbelow token htoken]
    rw [hparameters]
    refine List.map_congr_left fun token htoken => ?_
    rw [Function.comp_apply, segmentAt, covers.at?_level (List.mem_filter.mp htoken).1]
  · -- the end of the path
    have hnone : (tokens.values.any fun token =>
        token.isParameter && token.level = path.levels) = false := by
      rw [List.any_eq_false]
      intro token htoken
      simp [hbelow token htoken]
    have hlastAt : tokens.segmentAt path.levels flat = tokens.segmentOf last flat := by
      rw [segmentAt, at?_of_forall_ne hbelow, hlast]
    have hends := covers.endsInParameter_eq hlast
    cases hparameter : last.isParameter <;> simp [hnone, hends, hlast, hlastAt, hparameter]

end Covers

/-! ## From left to right -/

/-- The texts of the tokens that belong to the segment of a token. -/
def runOf (values : List PathToken) (target : PathToken) : List String :=
  (values.filter (inSegmentOf target)).map PathToken.text

/-- The tokens in front of a level, where the literals since the parameter at level `before` are
the pending ones. -/
structure Gathered (front : List PathToken) (level : Nat) (before : Option Nat)
    (pending : List String) : Prop where
  level_lt : ∀ token ∈ front, token.level < level
  before_lt : before.all (fun parameter => parameter < level) = true
  map_text : (front.filter fun token => !token.isParameter &&
    before.all fun parameter => parameter < token.level).map PathToken.text = pending

namespace Gathered

variable {front rest : List PathToken} {level : Nat} {before : Option Nat} {pending : List String}
  {text : String} {segment : String} {words : List String}

theorem start : Gathered [] 0 none [] := ⟨by simp, rfl, rfl⟩

theorem parameter (gathered : Gathered front level before pending) :
    Gathered (front ++ [⟨text, level, true, before, segment, words⟩]) (level + 1) (some level) []
    where
  level_lt := by
    intro token htoken
    rcases List.mem_append.mp htoken with hfront | hnew
    · exact Nat.lt_succ_of_lt (gathered.level_lt token hfront)
    · rw [List.mem_singleton.mp hnew]
      exact Nat.lt_succ_self level
  before_lt := by simp
  map_text := by
    rw [List.map_eq_nil_iff, List.filter_eq_nil_iff]
    intro token htoken
    rcases List.mem_append.mp htoken with hfront | hnew
    · have hbelow := gathered.level_lt token hfront
      simp [Nat.le_of_lt hbelow]
    · simp [List.mem_singleton.mp hnew]

theorem literal (gathered : Gathered front level before pending) :
    Gathered (front ++ [⟨text, level, false, before, segment, words⟩]) (level + 1) before
      (pending ++ [text]) where
  level_lt := by
    intro token htoken
    rcases List.mem_append.mp htoken with hfront | hnew
    · exact Nat.lt_succ_of_lt (gathered.level_lt token hfront)
    · rw [List.mem_singleton.mp hnew]
      exact Nat.lt_succ_self level
  before_lt := by
    have hbefore := gathered.before_lt
    cases before with
    | none => rfl
    | some parameter =>
        simp only [Option.all_some, decide_eq_true_eq] at hbefore ⊢
        exact Nat.lt_succ_of_lt hbefore
  map_text := by
    have hbefore := gathered.before_lt
    rw [List.filter_append, List.map_append, gathered.map_text]
    simp [hbefore]

/-- The next token gets the pending texts from what stands in front, its own text if it is a
literal, and nothing from what comes later. -/
theorem runOf_next (gathered : Gathered front level before pending) {target : PathToken}
    (hlevel : target.level = level) (hbefore : target.parameterBefore = before)
    (hlater : ∀ token ∈ rest, level < token.level) :
    runOf (front ++ target :: rest) target =
      pending ++ if target.isParameter then [] else [target.text] := by
  have hfront : front.filter (inSegmentOf target) = front.filter fun token =>
      !token.isParameter && before.all fun parameter => parameter < token.level := by
    refine List.filter_congr fun token htoken => ?_
    have hbelow := gathered.level_lt token htoken
    unfold inSegmentOf
    rw [hlevel, hbefore, decide_eq_true hbelow, Bool.true_or, Bool.and_true]
  have hrest : rest.filter (inSegmentOf target) = [] := by
    refine List.filter_eq_nil_iff.mpr fun token htoken => ?_
    have hlt := hlater token htoken
    have hne : token.level ≠ level := by omega
    simp [inSegmentOf, hlevel, hne, Nat.not_lt_of_lt hlt]
  have hself : inSegmentOf target target = !target.isParameter := by
    have hall := gathered.before_lt
    unfold inSegmentOf
    rw [hlevel, hbefore, hall]
    simp
  unfold runOf
  rw [List.filter_append, hfront, List.map_append, gathered.map_text, List.filter_cons, hself, hrest]
  cases target.isParameter <;> rfl

end Gathered

/-- The token of a literal, whether its words are split or not. -/
theorem ofElements_literal (level : Nat) (before : Option Nat) (pending : List String)
    (text : String) (rest : List PathElement) :
    PathToken.ofElements splitting level before pending (.literal text :: rest) =
      ⟨text, level, false, before, segmentSeparator.intercalate (pending ++ [text]),
        if splitting then splitWords text else []⟩ ::
        PathToken.ofElements splitting (level + 1) before (pending ++ [text]) rest := rfl

theorem level_lt_of_mem_ofElements {level : Nat} {before : Option Nat} {pending : List String}
    {elements : List PathElement} {token : PathToken}
    (htoken : token ∈ PathToken.ofElements splitting (level + 1) before pending elements) :
    level < token.level := by
  have hlevel := List.mem_map_of_mem (f := PathToken.level) htoken
  rw [PathToken.map_level_ofElements, List.mem_range'_1] at hlevel
  exact hlevel.1

/-- The endings of the elements from a level on have the runs of these elements, the first of
which begins with the pending texts; and each raw segment is the run joined. -/
theorem Gathered.map_endings {front : List PathToken} {level : Nat} {before : Option Nat}
    {pending : List String} (gathered : Gathered front level before pending)
    (elements : List PathElement) :
    (PathToken.endings (PathToken.ofElements splitting level before pending elements)).map
        (fun token => (token.segment,
          runOf (front ++ PathToken.ofElements splitting level before pending elements) token)) =
      ((PathElement.runs elements).modifyHead (pending ++ ·)).map
        fun run => (segmentSeparator.intercalate run, run) := by
  induction elements generalizing front level before pending with
  | nil => rfl
  | cons element rest ih =>
      have hlater : ∀ {next : Option Nat} {texts : List String},
          ∀ token ∈ PathToken.ofElements splitting (level + 1) next texts rest,
            level < token.level := fun _ => level_lt_of_mem_ofElements
      cases element with
      | parameter name =>
          have hruns : (PathElement.runs rest).modifyHead ([] ++ ·) = PathElement.runs rest := by
            cases PathElement.runs rest <;> rfl
          rw [PathToken.ofElements, PathToken.endings_cons_of_parameter rfl, List.map_cons,
            gathered.runOf_next rfl rfl hlater, List.append_cons, ih gathered.parameter, hruns]
          simp [PathElement.runs]
      | literal text =>
          rw [ofElements_literal]
          cases rest with
          | nil =>
              rw [PathToken.ofElements, PathToken.endings_singleton, List.map_singleton,
                gathered.runOf_next rfl rfl (List.forall_mem_nil _)]
              rfl
          | cons next rest =>
              -- the literal ends nothing, and the run that goes on begins with it
              obtain ⟨run, others, hruns⟩ :=
                List.exists_cons_of_ne_nil (PathElement.runs_ne_nil next rest)
              have hgoes : PathToken.ofElements splitting (level + 1) before (pending ++ [text])
                  (next :: rest) ≠ [] := by
                cases next <;> exact List.cons_ne_nil _ _
              rw [PathToken.endings_cons_of_literal rfl hgoes, List.append_cons,
                ih gathered.literal, PathElement.runs, hruns]
              simp

/-! ## The segments of a path -/

/-- The keys of a literal are its words. -/
theorem flatKeys_of_mem_ofElements {level : Nat} {before : Option Nat} {pending : List String}
    {elements : List PathElement} {token : PathToken}
    (htoken : token ∈ PathToken.ofElements splitting level before pending elements)
    (hliteral : token.isParameter = false) :
    token.flatKeys = PathElement.literalWords splitting token.text := by
  induction elements generalizing level before pending with
  | nil => cases htoken
  | cons element rest ih =>
      cases element with
      | parameter name =>
          rw [PathToken.ofElements] at htoken
          rcases List.mem_cons.mp htoken with rfl | hrest
          · cases hliteral
          · exact ih hrest
      | literal text =>
          rw [ofElements_literal] at htoken
          rcases List.mem_cons.mp htoken with rfl | hrest
          · unfold PathToken.flatKeys PathElement.literalWords
            cases splitting <;> cases hwords : (splitWords text).isEmpty <;>
              simp [hwords, PathToken.key]
          · exact ih hrest

/-- The literals among the tokens are those of the elements. -/
theorem map_text_literals (level : Nat) (before : Option Nat) (pending : List String)
    (elements : List PathElement) :
    ((PathToken.ofElements splitting level before pending elements).filter
        fun token => !token.isParameter).map PathToken.text =
      (elements.filter fun element => !element.isParameter).map PathElement.text := by
  induction elements generalizing level before pending with
  | nil => rfl
  | cons element rest ih =>
      cases element with
      | parameter name =>
          rw [PathToken.ofElements, List.filter_cons_of_neg (by simp), ih]
          rfl
      | literal text =>
          rw [ofElements_literal, List.filter_cons_of_pos rfl, List.map_cons, ih]
          rfl

/-- The keys of some literals are the words of their texts. -/
theorem flatMap_flatKeys {level : Nat} {before : Option Nat} {pending : List String}
    {elements : List PathElement} {kept : PathToken → Bool}
    (hkept : ∀ token, kept token = true → token.isParameter = false) :
    ((PathToken.ofElements splitting level before pending elements).filter kept).flatMap
        PathToken.flatKeys =
      (((PathToken.ofElements splitting level before pending elements).filter kept).map
        PathToken.text).flatMap (PathElement.literalWords splitting) := by
  rw [List.flatMap_map]
  refine List.flatMap_congr fun token htoken => ?_
  obtain ⟨hmem, hkeeps⟩ := List.mem_filter.mp htoken
  exact flatKeys_of_mem_ofElements hmem (hkept token hkeeps)

/-- The words of a path are those of its literals. -/
theorem flatWords_eq (hsome : (ofPath path splitting).isEmpty = false)
    (hsize : (ofPath path splitting).size = path.levels) :
    (ofPath path splitting).flatWords true =
      path.literals.flatMap (PathElement.literalWords splitting) := by
  have hkept : (fun token : PathToken => !token.isParameter && (true || !token.isStar)) =
      fun token => !token.isParameter := by
    funext token
    rw [Bool.true_or, Bool.and_true]
  unfold flatWords
  rw [hkept, values_ofPath hsome hsize, flatMap_flatKeys fun token hliteral => by simpa using hliteral,
    map_text_literals]
  rfl

/-- The flat segment of a token has the words of the texts that belong to it. -/
theorem flatSegment_eq {tokens : TokenMap} {elements : List PathElement}
    (hvalues : tokens.values = PathToken.ofElements splitting 0 none [] elements)
    (token : PathToken) :
    tokens.flatSegment token = segmentSeparator.intercalate
      ((runOf tokens.values token).flatMap (PathElement.literalWords splitting)) := by
  have hliteral : ∀ other, inSegmentOf token other = true → other.isParameter = false := by
    intro other hin
    unfold inSegmentOf at hin
    simp only [Bool.and_eq_true, Bool.not_eq_true'] at hin
    exact hin.1.1
  unfold flatSegment runOf
  rw [hvalues, flatMap_flatKeys hliteral]

/-- The raw and the flat segments of a path, as the endings of its tokens have them, are its runs
joined. -/
theorem segments_eq_map_runs (hsome : (ofPath path splitting).isEmpty = false)
    (hsize : (ofPath path splitting).size = path.levels) :
    (ofPath path splitting).segments path false = path.runs.map segmentSeparator.intercalate ∧
      (ofPath path splitting).segments path true = path.runs.map fun run =>
        segmentSeparator.intercalate (run.flatMap (PathElement.literalWords splitting)) := by
  have covers := covers_ofPath hsome hsize
  have hvalues := values_ofPath hsome hsize
  have hruns : (PathToken.endings (ofPath path splitting).values).map (fun token =>
      (token.segment, runOf (ofPath path splitting).values token)) =
      path.runs.map fun run => (segmentSeparator.intercalate run, run) := by
    have hendings := @Gathered.map_endings splitting _ _ _ _ Gathered.start path.elements
    rw [← hvalues, List.nil_append] at hendings
    rw [hendings]
    unfold Path.runs
    cases PathElement.runs path.elements <;> rfl
  rw [covers.segments_eq_map_endings hsome, covers.segments_eq_map_endings hsome]
  constructor
  · have hraw := congrArg (List.map Prod.fst) hruns
    rw [List.map_map, List.map_map] at hraw
    exact hraw
  · have hflat := congrArg (List.map fun pair => segmentSeparator.intercalate
      (pair.2.flatMap (PathElement.literalWords splitting))) hruns
    rw [List.map_map, List.map_map] at hflat
    refine Eq.trans (List.map_congr_left fun token _ => ?_) hflat
    rw [segmentOf, if_pos rfl, flatSegment_eq hvalues, Function.comp_apply]

/-- The segments of a path, raw and flat, are its runs of literals joined, and the flat ones that
are not empty, joined again, are the words of the path. -/
theorem segments_eq_runs (hsome : (ofPath path splitting).isEmpty = false)
    (hsize : (ofPath path splitting).size = path.levels) :
    (ofPath path splitting).segments path false = path.runs.map segmentSeparator.intercalate ∧
      (ofPath path splitting).segments path true = path.runs.map (fun run =>
        segmentSeparator.intercalate (run.flatMap (PathElement.literalWords splitting))) ∧
      segmentSeparator.intercalate
          (((ofPath path splitting).segments path true).filter (· ≠ "")) =
        segmentSeparator.intercalate ((ofPath path splitting).flatWords true) := by
  obtain ⟨hraw, hflat⟩ := segments_eq_map_runs hsome hsize
  refine ⟨hraw, hflat, ?_⟩
  have hwords : ∀ words ∈ path.runs.map (List.flatMap (PathElement.literalWords splitting)),
      ∀ word ∈ words, word ≠ "" := by
    intro words hwords word hword
    obtain ⟨run, hrun, rfl⟩ := List.mem_map.mp hwords
    obtain ⟨text, htext, hword⟩ := List.mem_flatMap.mp hword
    have hliteral : text ∈ path.literals := by
      rw [← path.flatten_runs]
      exact List.mem_flatten_of_mem hrun htext
    exact PathElement.ne_empty_of_mem_literalWords (Path.ne_empty_of_mem_literals hliteral) hword
  have hjoined := @intercalate_flatten segmentSeparator _ hwords
  rw [List.map_map, ← List.flatMap_def] at hjoined
  rw [hflat, flatWords_eq hsome hsize, ← path.flatten_runs, ← List.flatMap_id, List.flatMap_assoc]
  exact hjoined

/-- The segments of a path with a leading run, two parameters in a row and a compound name. -/
theorem segments_eq_runs_shop :
    ((ofPath (Path.ofText "/A/{a}/{b}/shopItems/A") true).isEmpty = false ∧
      (ofPath (Path.ofText "/A/{a}/{b}/shopItems/A") true).size =
        (Path.ofText "/A/{a}/{b}/shopItems/A").levels) ∧
      (ofPath (Path.ofText "/A/{a}/{b}/shopItems/A") true).segments
        (Path.ofText "/A/{a}/{b}/shopItems/A") false = ["A", "", "shopItems@A"] ∧
      (ofPath (Path.ofText "/A/{a}/{b}/shopItems/A") true).segments
        (Path.ofText "/A/{a}/{b}/shopItems/A") true = ["a", "", "shop@items@a"] ∧
      segmentSeparator.intercalate
        ((ofPath (Path.ofText "/A/{a}/{b}/shopItems/A") true).flatWords true) =
        "a@shop@items@a" := by
  have hsome : (ofPath (Path.ofText "/A/{a}/{b}/shopItems/A") true).isEmpty = false := by
    decide +kernel
  have hsize : (ofPath (Path.ofText "/A/{a}/{b}/shopItems/A") true).size =
      (Path.ofText "/A/{a}/{b}/shopItems/A").levels := by decide +kernel
  obtain ⟨hraw, hflat, hjoined⟩ := segments_eq_runs hsome hsize
  refine ⟨⟨hsome, hsize⟩, hraw.trans ?_, hflat.trans ?_, ?_⟩
  · decide +kernel
  · decide +kernel
  · rw [← hjoined, hflat]
    decide +kernel

end TokenMap

end RestCatalog
