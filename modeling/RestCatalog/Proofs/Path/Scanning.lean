import RestCatalog.Proofs.Path.Elements
import RestCatalog.Proofs.Path.Shape

/-!
# What scanning a path finds

A name stands in braces where an opening brace, the name and a closing brace follow each other.
A name is not empty and holds no brace, so two names in braces never overlap, and a scan that
only remembers what came after the last opening brace misses none: what it forgets is followed
by a second opening brace.

* `headName?` reads the name in braces that a text begins with, and `namesInBraces_eq` says that
  the scan finds what reading at every position finds, which is `namedPlaces_placesFrom` all
  that there is.
* `wholeName?_eq_some_iff`: an element is a parameter if the whole text is one name in braces.

`scanned` says this of elements, and of a path that its elements are what stands between slashes
in its text.
-/

namespace RestCatalog

open Text

namespace PathElement

variable {text name rest seen : List Char} {start : Nat} {c : Char}

/-! ## Names in braces -/

/-- Some characters without a brace. -/
structure IsName (name : List Char) : Prop where
  ne_nil : name ≠ []
  no_brace : ∀ c ∈ name, isBrace c = false

/-- A name stands in braces in a text, the opening one at a position. -/
structure NamedAt (text : List Char) (start : Nat) (name : List Char) : Prop where
  isName : IsName name
  stands : '\x7b' :: (name ++ ['\x7d']) <+: text.drop start

/-- The names that stand in braces in a text: all of them with their positions, from left to
right, and none overlapping the next. -/
structure NamedPlaces (text : List Char) (places : List (Nat × List Char)) : Prop where
  mem_iff : ∀ start name, (start, name) ∈ places ↔ NamedAt text start name
  apart : places.Pairwise fun first second => first.1 + first.2.length + 2 ≤ second.1

/-! ## Reading at one position -/

/-- The name in braces that a text begins with. -/
def headName? : List Char → Option (List Char)
  | '\x7b' :: rest =>
    let name := rest.takeWhile fun c => !isBrace c
    if name ≠ [] ∧ (rest.dropWhile fun c => !isBrace c).head? = some '\x7d' then some name
    else none
  | _ => none

/-- What has been read of a name does not keep the rest from being read. -/
theorem headName?_append (hname : ∀ c ∈ name, isBrace c = false) (rest : List Char) :
    headName? ('\x7b' :: (name ++ rest)) =
      if name ++ rest.takeWhile (fun c => !isBrace c) ≠ [] ∧
          (rest.dropWhile fun c => !isBrace c).head? = some '\x7d' then
        some (name ++ rest.takeWhile fun c => !isBrace c)
      else none := by
  have hkept : ∀ c ∈ name, (!isBrace c) = true := fun c hc => by simp [hname c hc]
  rw [headName?, List.takeWhile_append_of_pos hkept, List.dropWhile_append_of_pos hkept]

theorem headName?_eq_some_iff : headName? text = some name ↔ NamedAt text 0 name := by
  constructor
  · intro hhead
    unfold headName? at hhead
    split at hhead
    case h_1 rest =>
      simp only [Option.ite_none_right_eq_some, Option.some.injEq] at hhead
      obtain ⟨⟨hsome, hclosing⟩, rfl⟩ := hhead
      refine ⟨⟨hsome, fun c hc => by simpa using List.mem_takeWhile_imp hc⟩, ?_⟩
      obtain ⟨tail, htail⟩ := List.head?_eq_some_iff.mp hclosing
      refine ⟨tail, ?_⟩
      rw [List.drop_zero, List.cons_append, List.append_assoc, List.singleton_append, ← htail,
        List.takeWhile_append_dropWhile]
    case h_2 => cases hhead
  · rintro ⟨⟨hsome, hname⟩, tail, hstands⟩
    rw [List.drop_zero, List.cons_append, List.append_assoc, List.singleton_append] at hstands
    rw [← hstands, headName?_append hname, List.takeWhile_cons_of_neg (by decide),
      List.dropWhile_cons_of_neg (by decide), List.append_nil, if_pos ⟨hsome, rfl⟩]

/-! ## Reading at every position -/

/-- The names in braces in a text with their positions, which are counted from a number on. -/
def placesFrom (start : Nat) : List Char → List (Nat × List Char)
  | [] => []
  | c :: rest =>
    ((headName? (c :: rest)).map fun name => (start, name)).toList ++ placesFrom (start + 1) rest

theorem namedAt_succ_iff : NamedAt (c :: text) (start + 1) name ↔ NamedAt text start name := by
  refine ⟨fun named => ⟨named.isName, ?_⟩, fun named => ⟨named.isName, ?_⟩⟩
  · simpa using named.stands
  · simpa using named.stands

theorem mem_placesFrom_iff {place : Nat} :
    (place, name) ∈ placesFrom start text ↔ start ≤ place ∧ NamedAt text (place - start) name := by
  induction text generalizing start with
  | nil =>
      refine iff_of_false List.not_mem_nil ?_
      rintro ⟨-, named⟩
      simpa using named.stands
  | cons c rest ih =>
      rw [placesFrom, List.mem_append, ih, Option.mem_toList, Option.map_eq_some_iff]
      constructor
      · rintro (⟨other, hhead, hsame⟩ | ⟨hlater, named⟩)
        · obtain ⟨rfl, rfl⟩ := Prod.mk.inj hsame
          rw [Nat.sub_self]
          exact ⟨Nat.le_refl _, headName?_eq_some_iff.mp hhead⟩
        · have hplace : place - start = place - (start + 1) + 1 := by omega
          rw [hplace, namedAt_succ_iff]
          exact ⟨Nat.le_of_succ_le hlater, named⟩
      · rintro ⟨hfrom, named⟩
        rcases Nat.eq_or_lt_of_le hfrom with rfl | hlater
        · rw [Nat.sub_self] at named
          exact .inl ⟨name, headName?_eq_some_iff.mpr named, rfl⟩
        · have hplace : place - start = place - (start + 1) + 1 := by omega
          rw [hplace, namedAt_succ_iff] at named
          exact .inr ⟨hlater, named⟩

/-- Behind an opening brace the next one comes after the name and the closing one. -/
theorem NamedAt.length_add_two_le {other : List Char} (named : NamedAt text 0 name)
    (next : NamedAt text (start + 1) other) : name.length + 2 ≤ start + 1 := by
  by_contra hwithin
  obtain ⟨tail, hstands⟩ := named.stands
  have hopening : text[start + 1]? = some '\x7b' := by
    obtain ⟨tail', hstands'⟩ := next.stands
    rw [← List.head?_drop, ← hstands']
    rfl
  -- so the opening brace would be a character of the name, or the closing brace
  have hinside : (name ++ ['\x7d'])[start]? = some '\x7b' := by
    have hshort : start < (name ++ ['\x7d']).length := by
      rw [List.length_append, List.length_singleton]
      omega
    rw [List.drop_zero, List.cons_append] at hstands
    rwa [← hstands, List.getElem?_cons_succ, List.getElem?_append_left hshort] at hopening
  rcases List.mem_append.mp (List.mem_of_getElem? hinside) with hname | hclosing
  · have hbrace := named.isName.no_brace _ hname
    cases hbrace
  · simp at hclosing

theorem namedPlaces_placesFrom (text : List Char) : NamedPlaces text (placesFrom 0 text) := by
  constructor
  case mem_iff =>
    intro place name
    rw [mem_placesFrom_iff, Nat.sub_zero, and_iff_right (Nat.zero_le place)]
  case apart =>
    generalize 0 = start
    induction text generalizing start with
    | nil => exact .nil
    | cons c rest ih =>
        rw [placesFrom]
        cases hhead : headName? (c :: rest) with
        | none => exact ih (start + 1)
        | some name =>
            refine .cons ?_ (ih (start + 1))
            rintro ⟨place, other⟩ hplace
            obtain ⟨hlater, next⟩ := mem_placesFrom_iff.mp hplace
            have named : NamedAt (c :: rest) 0 name := headName?_eq_some_iff.mp hhead
            have hapart := named.length_add_two_le (namedAt_succ_iff.mpr next)
            dsimp only
            omega

/-! ## The scan -/

theorem map_snd_placesFrom_cons (start : Nat) (c : Char) (rest : List Char) :
    (placesFrom start (c :: rest)).map Prod.snd =
      (headName? (c :: rest)).toList ++ (placesFrom (start + 1) rest).map Prod.snd := by
  rw [placesFrom, List.map_append]
  cases headName? (c :: rest) <;> rfl

theorem headName?_of_ne (hopen : c ≠ '\x7b') : headName? (c :: rest) = none := by
  unfold headName?
  split
  case h_1 heq => exact absurd (List.cons.inj heq).1 hopen
  case h_2 => rfl

/-- The scan finds what reading at every position finds.  Behind an opening brace it has read the
beginning of a name already. -/
theorem namesInBraces_eq (start : Nat) (text : List Char) :
    namesInBraces none text = (placesFrom start text).map Prod.snd ∧
      ∀ seen : List Char, (∀ c ∈ seen, isBrace c = false) →
        namesInBraces (some seen) text =
          (headName? ('\x7b' :: (seen.reverse ++ text))).toList ++
            (placesFrom start text).map Prod.snd := by
  induction text generalizing start with
  | nil =>
      refine ⟨rfl, fun seen hseen => ?_⟩
      rw [headName?_append fun c hc => hseen c (List.mem_reverse.mp hc)]
      simp [namesInBraces, placesFrom]
  | cons c rest ih =>
      obtain ⟨ihNone, ihSome⟩ := ih (start + 1)
      rw [map_snd_placesFrom_cons]
      by_cases hopen : c = '\x7b'
      · -- a new name may begin, and one that was begun is given up
        have hnew : namesInBraces (some []) rest = (headName? (c :: rest)).toList ++
            (placesFrom (start + 1) rest).map Prod.snd := by
          rw [hopen]
          exact ihSome [] (by simp)
        refine ⟨?_, fun seen hseen => ?_⟩
        · rw [namesInBraces, if_pos hopen, hnew]
        · rw [namesInBraces, if_pos hopen, hnew,
            headName?_append fun c hc => hseen c (List.mem_reverse.mp hc), hopen]
          simp [isBrace]
      rw [headName?_of_ne hopen, Option.toList_none, List.nil_append]
      refine ⟨by rw [namesInBraces, if_neg hopen, ihNone], fun seen hseen => ?_⟩
      rw [namesInBraces, if_neg hopen]
      by_cases hclose : c = '\x7d'
      · rw [headName?_append fun c hc => hseen c (List.mem_reverse.mp hc), hclose, ihNone]
        cases seen <;> simp [isBrace]
      · have hkept : isBrace c = false := by simp [isBrace, hopen, hclose]
        have hgoes := ihSome (c :: seen) (List.forall_mem_cons.mpr ⟨hkept, hseen⟩)
        rw [List.reverse_cons, List.append_assoc, List.singleton_append] at hgoes
        simp [hclose, hgoes]

/-! ## Elements -/

/-- What reading a text as an element finds. -/
structure Scanned (text : List Char) : Prop where
  placeholders : ∃ places, NamedPlaces text places ∧
    (ofText text).placeholders = places.map fun place => String.ofList place.2
  /-- It is a parameter if the whole text is one name in braces. -/
  isParameter_iff : (ofText text).isParameter = true ↔
    ∃ name, IsName name ∧ text = '\x7b' :: (name ++ ['\x7d'])
  /-- The name of a parameter is its only variable. -/
  parameter : ∀ name, IsName name → text = '\x7b' :: (name ++ ['\x7d']) →
    (ofText text).placeholders = [String.ofList name] ∧ (ofText text).name = String.ofList name

/-- A text is one name in braces. -/
theorem wholeName?_eq_some_iff :
    wholeName? text = some name ↔ IsName name ∧ text = '\x7b' :: (name ++ ['\x7d']) := by
  constructor
  · intro hwhole
    obtain ⟨htext, hsome, hname⟩ := eq_of_wholeName? hwhole
    exact ⟨⟨hsome, hname⟩, htext⟩
  · rintro ⟨⟨hsome, hname⟩, rfl⟩
    have hkept : ∀ c ∈ name, (!isBrace c) = true := fun c hc => by simp [hname c hc]
    have hstop : (!isBrace '\x7d') = false := by decide
    simp [wholeName?, List.takeWhile_append_of_pos hkept, List.dropWhile_append_of_pos hkept, hstop,
      hsome]

theorem scanned_ofText (text : List Char) : Scanned text := by
  constructor
  case placeholders =>
    refine ⟨placesFrom 0 text, namedPlaces_placesFrom text, ?_⟩
    rw [placeholders_ofText, (namesInBraces_eq 0 text).1, List.map_map]
    rfl
  case isParameter_iff =>
    simp only [← wholeName?_eq_some_iff]
    unfold ofText
    cases wholeName? text <;> simp [isParameter]
  case parameter =>
    intro name hname htext
    have hwhole : wholeName? text = some name := wholeName?_eq_some_iff.mpr ⟨hname, htext⟩
    unfold ofText
    rw [hwhole]
    exact ⟨rfl, rfl⟩

end PathElement

namespace Path

/-! ## Paths -/

/-- What reading the text of a path finds. -/
structure Scanned (path : Path) : Prop where
  /-- The elements are what is left of the pieces between slashes without the empty ones, each
  read as an element. -/
  elements_eq : path.elements =
    ((path.text.toList.splitOn '/').filter (· ≠ [])).map PathElement.ofText
  /-- An element keeps its text. -/
  texts_eq : path.elements.map (fun element => element.text.toList) =
    (path.text.toList.splitOn '/').filter (· ≠ [])
  text_plain : ∀ element ∈ path.elements, element.text ≠ "" ∧ '/' ∉ element.text.toList
  hasVariables_iff : path.hasVariables = true ↔ path.variableNames ≠ []
  levels_eq : path.levels =
    path.literals.length + (path.elements.filter PathElement.isParameter).length

theorem scanned_of_text (path : Path) : path.Scanned := by
  have hpieces : pieces path.text.toList = (path.text.toList.splitOn '/').filter (· ≠ []) := by
    unfold pieces
    rw [splitOn_eq_splitOn]
    refine List.filter_congr fun piece _ => ?_
    cases piece <;> rfl
  have helements : path.elements =
      ((path.text.toList.splitOn '/').filter (· ≠ [])).map PathElement.ofText := by
    rw [← hpieces, elements_eq]
  constructor
  case elements_eq => exact helements
  case texts_eq =>
    rw [helements, List.map_map]
    refine List.map_id'' (fun piece => ?_) _
    rw [Function.comp_apply, PathElement.text_ofText, String.toList_ofList]
  case text_plain =>
    intro element helement
    obtain ⟨hsome, hslash⟩ := text_of_mem helement
    exact ⟨fun hempty => hsome (String.toList_eq_nil_iff.mpr hempty), hslash⟩
  case hasVariables_iff => exact hasVariables_iff path
  case levels_eq =>
    unfold levels literals
    rw [List.length_map, Nat.add_comm]
    exact List.length_eq_length_filter_add PathElement.isParameter

end Path

/-- Scanning is exact, whether a text is read as an element or as a path. -/
theorem scanned (text : String) :
    PathElement.Scanned text.toList ∧ (Path.ofText text).Scanned :=
  ⟨PathElement.scanned_ofText text.toList, Path.scanned_of_text (Path.ofText text)⟩

end RestCatalog
