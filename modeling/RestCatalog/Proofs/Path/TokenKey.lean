import Mathlib.Data.List.Perm.Subperm
import Mathlib.Data.Set.Basic
import Mathlib.Order.Bounds.Defs
import RestCatalog.Proofs.Path.Token

/-!
# Which elements keep their token

The token of an element is kept under the name of the element, and under the name with its
level behind it if the name is taken.  A numbered key tells its level, so two elements never
get the same one (`level_eq_of_numbered_eq`).  A plain name is different: an element may be
called `a#2`, and then a repeated `a` on level 2 takes its key, and its place.

* `Taken` says which keys are taken in front of a level, from the names of the elements alone
  (`mem_keys_ofTokens_take`), and `HasKey` which key an element gets.
* `Displaces` is the one way in which two elements share a key (`displaces_iff`), so the tokens
  of a path are those of the elements that no other one displaces (`mem_values_ofTokens_iff`).
* The tokens describe the elements one by one if and only if no element displaces another one
  (`oneForEach_iff`), as is the case where no name holds a `#`.
-/

namespace RestCatalog

/-- The names of the elements of a path, left to right. -/
def Path.names (path : Path) : List String := path.elements.map PathElement.name

namespace TokenMap

variable {names : List String} {name key : String} {level place : Nat}

/-! ## Numbered names -/

/-- A name with a level behind it. -/
def numbered (name : String) (level : Nat) : String := name ++ "#" ++ toString level

private theorem takeWhile_reverse_numbered (name : String) (level : Nat) :
    (numbered name level).toList.reverse.takeWhile Char.isDigit =
      (toString level).toList.reverse := by
  have hdigits : ∀ c ∈ (toString level).toList.reverse, c.isDigit = true := by
    intro c hc
    rw [List.mem_reverse, Nat.toString_eq_ofList_toDigits, String.toList_ofList] at hc
    exact Nat.isDigit_of_mem_toDigits (by decide) (by decide) hc
  have hhash : ("#" : String).toList.reverse = ['#'] := by decide
  unfold numbered
  rw [String.toList_append, String.toList_append, List.reverse_append, List.reverse_append, hhash,
    List.takeWhile_append_of_pos hdigits, List.singleton_append,
    List.takeWhile_cons_of_neg (by decide), List.append_nil]

/-- A numbered name tells its level. -/
theorem level_eq_of_numbered_eq {other : String}
    (hsame : numbered name level = numbered other place) : level = place := by
  have hreverse : (toString level).toList.reverse = (toString place).toList.reverse := by
    rw [← takeWhile_reverse_numbered name, hsame, takeWhile_reverse_numbered]
  have hdigits : Nat.toDigits 10 level = Nat.toDigits 10 place := by
    simpa [Nat.toString_eq_ofList_toDigits] using hreverse
  simpa using congrArg (fun digits => Nat.ofDigitChars 10 digits 0) hdigits

theorem hash_mem_numbered (name : String) (level : Nat) :
    '#' ∈ (numbered name level).toList := by
  unfold numbered
  rw [String.toList_append, String.toList_append, List.mem_append, List.mem_append]
  exact .inl (.inr (by decide))

/-! ## Keys -/

/-- The keys that are taken in front of a level: the names of the elements before it, and the
numbered names of those of them whose name was taken. -/
inductive Taken (names : List String) : Nat → String → Prop
  | name {level place : Nat} {name : String} (hbefore : place < level)
      (hname : names[place]? = some name) : Taken names level name
  | numbered {level place : Nat} {name : String} (hbefore : place < level)
      (hname : names[place]? = some name) (htaken : Taken names place name) :
      Taken names level (numbered name place)

/-- The key that the element at a place gets. -/
def HasKey (names : List String) (place : Nat) (key : String) : Prop :=
  ∃ name, names[place]? = some name ∧
    (Taken names place name ∧ key = numbered name place ∨ ¬ Taken names place name ∧ key = name)

/-- An element displaces an earlier one if its own name is taken and its numbered name is the
name, and the key, of the earlier one. -/
def Displaces (names : List String) (level place : Nat) : Prop :=
  place < level ∧ ∃ name, names[level]? = some name ∧ Taken names level name ∧
    names[place]? = some (numbered name level) ∧ ¬ Taken names place (numbered name level)

theorem taken_succ_iff (hname : names[level]? = some name) :
    Taken names (level + 1) key ↔
      Taken names level key ∨ key = name ∨ Taken names level name ∧ key = numbered name level := by
  constructor
  · intro htaken
    cases htaken with
    | name hbefore hother =>
        rcases Nat.lt_succ_iff_lt_or_eq.mp hbefore with hbefore | rfl
        · exact .inl (.name hbefore hother)
        · exact .inr (.inl (Option.some.inj (hother.symm.trans hname)))
    | numbered hbefore hother htaken =>
        rcases Nat.lt_succ_iff_lt_or_eq.mp hbefore with hbefore | rfl
        · exact .inl (.numbered hbefore hother htaken)
        · obtain rfl := Option.some.inj (hother.symm.trans hname)
          exact .inr (.inr ⟨htaken, rfl⟩)
  · rintro (htaken | rfl | ⟨htaken, rfl⟩)
    · cases htaken with
      | name hbefore hother => exact .name (Nat.lt_succ_of_lt hbefore) hother
      | numbered hbefore hother htaken => exact .numbered (Nat.lt_succ_of_lt hbefore) hother htaken
    · exact .name (Nat.lt_succ_self _) hname
    · exact .numbered (Nat.lt_succ_self _) hname htaken

theorem HasKey.unique {other : String} (hkey : HasKey names place key)
    (hother : HasKey names place other) : key = other := by
  obtain ⟨name, hname, hkey⟩ := hkey
  obtain ⟨name', hname', hother⟩ := hother
  obtain rfl := Option.some.inj (hname.symm.trans hname')
  rcases hkey with ⟨htaken, rfl⟩ | ⟨hfree, rfl⟩ <;> rcases hother with ⟨htaken', rfl⟩ | ⟨hfree', rfl⟩
  · rfl
  · exact absurd htaken hfree'
  · exact absurd htaken' hfree
  · rfl

/-- Two elements share a key only if the later one displaces the earlier one. -/
theorem displaces_iff (hbefore : place < level) :
    Displaces names level place ↔ ∃ key, HasKey names place key ∧ HasKey names level key := by
  constructor
  · rintro ⟨-, name, hname, htaken, hplace, hfree⟩
    exact ⟨_, ⟨_, hplace, .inr ⟨hfree, rfl⟩⟩, ⟨name, hname, .inl ⟨htaken, rfl⟩⟩⟩
  · rintro ⟨key, ⟨earlier, hearlier, hkey⟩, ⟨name, hname, hkey'⟩⟩
    rcases hkey with ⟨htaken, rfl⟩ | ⟨hfree, rfl⟩
    case inl =>
      -- a numbered key is taken for good, and no other level can have it
      rcases hkey' with ⟨-, hsame⟩ | ⟨hfree', rfl⟩
      · exact absurd (level_eq_of_numbered_eq hsame) (Nat.ne_of_lt hbefore)
      · exact absurd (.numbered hbefore hearlier htaken) hfree'
    case inr =>
      rcases hkey' with ⟨htaken', rfl⟩ | ⟨hfree', rfl⟩
      · exact ⟨hbefore, name, hname, htaken', hearlier, hfree⟩
      · exact absurd (.name hbefore hearlier) hfree'

/-! ## The tokens that are kept -/

section

variable {tokens : List PathToken} {token : PathToken} {map : TokenMap}

private theorem level_of_getElem? (hlevels : tokens.map PathToken.level = List.range tokens.length)
    (htoken : tokens[place]? = some token) : token.level = place := by
  have hlevel : (tokens.map PathToken.level)[place]? = some token.level := by
    rw [List.getElem?_map, htoken, Option.map_some]
  rw [hlevels] at hlevel
  obtain ⟨hlt, hplace⟩ := List.getElem?_eq_some_iff.mp hlevel
  rw [← hplace, List.getElem_range]

/-- A map of the tokens in front of a level: the keys are those that are taken there, and under
its key stands the token of every element that was not displaced. -/
structure Filed (tokens : List PathToken) (level : Nat) (map : TokenMap) : Prop where
  nodup_keys : map.keys.Nodup
  mem_keys_iff : ∀ key, key ∈ map.keys ↔ Taken (tokens.map PathToken.text) level key
  get?_iff : ∀ key token, map.get? key = some token ↔
    ∃ place < level, tokens[place]? = some token ∧ HasKey (tokens.map PathToken.text) place key ∧
      ∀ later < level, ¬ Displaces (tokens.map PathToken.text) later place

theorem filed_empty (tokens : List PathToken) : Filed tokens 0 {} := by
  constructor
  case nodup_keys => exact List.nodup_nil
  case mem_keys_iff =>
    intro key
    constructor
    · intro hkey
      cases hkey
    · intro htaken
      cases htaken with
      | name hbefore => exact absurd hbefore (Nat.not_lt_zero _)
      | numbered hbefore => exact absurd hbefore (Nat.not_lt_zero _)
  case get?_iff =>
    intro key token
    constructor
    · intro hget
      cases hget
    · rintro ⟨place, hplace, -⟩
      exact absurd hplace (Nat.not_lt_zero _)

/-- The key that the next token gets is that of its element. -/
theorem Filed.hasKey_keyFor (filed : Filed tokens level map) (htoken : tokens[level]? = some token)
    (hlevel : token.level = level) :
    HasKey (tokens.map PathToken.text) level (keyFor map token) := by
  refine ⟨token.text, by rw [List.getElem?_map, htoken, Option.map_some], ?_⟩
  unfold keyFor
  split
  case isTrue hknown =>
    rw [hlevel]
    exact .inl ⟨(filed.mem_keys_iff _).mp (OrderedMap.contains_iff.mp hknown), rfl⟩
  case isFalse hnew =>
    refine .inr ⟨fun htaken => hnew ?_, rfl⟩
    exact OrderedMap.contains_iff.mpr ((filed.mem_keys_iff _).mpr htaken)

/-- Filing one more token takes one more key, and removes the token that had it. -/
theorem Filed.insert (filed : Filed tokens level map) (htoken : tokens[level]? = some token)
    (hlevel : token.level = level) :
    Filed tokens (level + 1) (map.insert (keyFor map token) token) := by
  have hkey := filed.hasKey_keyFor htoken hlevel
  constructor
  case nodup_keys => exact OrderedMap.nodup_keys_insert filed.nodup_keys _ _
  case mem_keys_iff =>
    intro key
    obtain ⟨name, hname, hcases⟩ := hkey
    rw [OrderedMap.mem_keys_insert, filed.mem_keys_iff, taken_succ_iff hname]
    refine or_congr_right' ?_
    intro hfree
    rcases hcases with ⟨htaken, hkey⟩ | ⟨hfree', hkey⟩
    · -- the name itself is nothing new
      have hne : key ≠ name := fun hsame => hfree (hsame ▸ htaken)
      simp [hkey, hne, htaken]
    · simp [hkey, hfree']
  case get?_iff =>
    intro key other
    rw [OrderedMap.get?_insert]
    split
    case isTrue hsame =>
      subst hsame
      constructor
      · intro hother
        obtain rfl := Option.some.inj hother
        refine ⟨level, Nat.lt_succ_self _, htoken, hkey, ?_⟩
        rintro later hlater ⟨hbehind, -⟩
        omega
      · rintro ⟨place, hplace, hother, hshared, hkept⟩
        rcases Nat.lt_succ_iff_lt_or_eq.mp hplace with hbefore | rfl
        · exact absurd ((displaces_iff hbefore).mpr ⟨_, hshared, hkey⟩)
            (hkept level (Nat.lt_succ_self _))
        · exact htoken.symm.trans hother
    case isFalse hne =>
      rw [filed.get?_iff]
      constructor
      · rintro ⟨place, hplace, hother, hown, hkept⟩
        refine ⟨place, Nat.lt_succ_of_lt hplace, hother, hown, ?_⟩
        intro later hlater
        rcases Nat.lt_succ_iff_lt_or_eq.mp hlater with hlater | rfl
        · exact hkept later hlater
        · intro hdisplaces
          obtain ⟨shared, hplaceKey, hlevelKey⟩ := (displaces_iff hplace).mp hdisplaces
          exact hne ((hown.unique hplaceKey).trans (hlevelKey.unique hkey))
      · rintro ⟨place, hplace, hother, hown, hkept⟩
        rcases Nat.lt_succ_iff_lt_or_eq.mp hplace with hbefore | rfl
        · exact ⟨place, hbefore, hother, hown, fun later hlater =>
            hkept later (Nat.lt_succ_of_lt hlater)⟩
        · exact absurd (hown.unique hkey) hne

theorem filed_ofTokens_take (hlevels : tokens.map PathToken.level = List.range tokens.length)
    {level : Nat} (hlevel : level ≤ tokens.length) :
    Filed tokens level (ofTokens (tokens.take level)) := by
  induction level with
  | zero => exact filed_empty tokens
  | succ level ih =>
      have htoken : tokens[level]? = some tokens[level] := List.getElem?_eq_getElem hlevel
      have hstep : ofTokens (tokens.take (level + 1)) =
          (ofTokens (tokens.take level)).insert
            (keyFor (ofTokens (tokens.take level)) tokens[level]) tokens[level] := by
        unfold ofTokens
        rw [List.take_add_one, htoken, Option.toList_some, List.foldl_append, List.foldl_cons,
          List.foldl_nil]
      rw [hstep]
      exact (ih (Nat.le_of_lt hlevel)).insert htoken (level_of_getElem? hlevels htoken)

/-- The tokens of a map are those that no other one displaces. -/
theorem mem_values_ofTokens_iff
    (hlevels : tokens.map PathToken.level = List.range tokens.length) :
    token ∈ (ofTokens tokens).values ↔
      token ∈ tokens ∧ ∀ later, ¬ Displaces (tokens.map PathToken.text) later token.level := by
  have filed := filed_ofTokens_take hlevels (Nat.le_refl _)
  rw [List.take_length] at filed
  constructor
  · intro htoken
    obtain ⟨⟨key, value⟩, hentry, rfl⟩ := List.mem_map.mp htoken
    obtain ⟨place, -, hplace, -, hkept⟩ := (filed.get?_iff key value).mp
      ((OrderedMap.get?_eq_some_iff filed.nodup_keys).mpr hentry)
    refine ⟨List.mem_of_getElem? hplace, ?_⟩
    intro later hdisplaces
    rw [level_of_getElem? hlevels hplace] at hdisplaces
    obtain ⟨-, name, hname, -⟩ := id hdisplaces
    have hlater : later < tokens.length := by
      rw [← List.length_map PathToken.text]
      exact (List.getElem?_eq_some_iff.mp hname).1
    exact hkept later hlater hdisplaces
  · rintro ⟨htoken, hkept⟩
    obtain ⟨place, hplace⟩ := List.mem_iff_getElem?.mp htoken
    rw [level_of_getElem? hlevels hplace] at hkept
    obtain ⟨key, hkey⟩ : ∃ key, HasKey (tokens.map PathToken.text) place key := by
      have hname : (tokens.map PathToken.text)[place]? = some token.text := by
        rw [List.getElem?_map, hplace, Option.map_some]
      by_cases htaken : Taken (tokens.map PathToken.text) place token.text
      · exact ⟨_, token.text, hname, .inl ⟨htaken, rfl⟩⟩
      · exact ⟨_, token.text, hname, .inr ⟨htaken, rfl⟩⟩
    have hget := (filed.get?_iff key token).mpr
      ⟨place, (List.getElem?_eq_some_iff.mp hplace).1, hplace, hkey, fun later _ => hkept later⟩
    exact List.mem_map.mpr ⟨_, OrderedMap.mem_entries_of_get? hget, rfl⟩

/-- If no token displaces another one, all of them are kept in their order. -/
theorem values_ofTokens (hlevels : tokens.map PathToken.level = List.range tokens.length)
    (hkept : ∀ level place, ¬ Displaces (tokens.map PathToken.text) level place) :
    (ofTokens tokens).values = tokens := by
  have hnodup : tokens.Nodup := by
    refine List.Nodup.of_map PathToken.level ?_
    rw [hlevels]
    exact List.nodup_range
  have hsubset : tokens ⊆ (ofTokens tokens).values := fun token htoken =>
    (mem_values_ofTokens_iff hlevels).mpr ⟨htoken, fun later => hkept later _⟩
  have hlength : tokens.length ≤ (ofTokens tokens).size := by
    have hle := (hnodup.subperm hsubset).length_le
    rwa [OrderedMap.values, List.length_map] at hle
  obtain ⟨hle, hvalues⟩ := OrderedMap.values_foldl_insert keyFor tokens {}
  have hsize : (ofTokens tokens).size = 0 + tokens.length := Nat.le_antisymm hle (by omega)
  exact hvalues hsize

end

/-- No element with a name without a `#` is ever displaced. -/
theorem not_displaces_of_plain (hplain : ∀ name ∈ names, '#' ∉ name.toList) :
    ¬ Displaces names level place := by
  rintro ⟨-, name, -, -, hplace, -⟩
  exact hplain _ (List.mem_of_getElem? hplace) (hash_mem_numbered name level)

end TokenMap

namespace PathToken

variable {elements rest : List PathElement} {element : PathElement} {place : Nat}
  {before : Option Nat}

/-! ## What a token says about its element -/

/-- The levels of the parameters in front of a place. -/
def parameterLevels (elements : List PathElement) (place : Nat) : Set Nat :=
  {level | level < place ∧ ∃ name, elements[level]? = some (.parameter name)}

/-- The nearest parameter in front of a place, if there is any, is on the greatest of these
levels. -/
def Nearest (elements : List PathElement) (place : Nat) : Option Nat → Prop
  | none => parameterLevels elements place = ∅
  | some level => IsGreatest (parameterLevels elements place) level

/-- A token that tells about the element at a place. -/
structure Describes (token : PathToken) (elements : List PathElement) (place : Nat) : Prop where
  level_eq : token.level = place
  element : ∃ element, elements[place]? = some element ∧ token.text = element.name ∧
    token.isParameter = element.isParameter
  nearest : Nearest elements place token.parameterBefore

theorem nearest_zero (elements : List PathElement) : Nearest elements 0 none :=
  Set.eq_empty_of_forall_notMem fun _ hlevel => Nat.not_lt_zero _ hlevel.1

theorem nearest_of_parameter {name : String} (hname : elements[place]? = some (.parameter name)) :
    Nearest elements (place + 1) (some place) :=
  ⟨⟨Nat.lt_succ_self _, name, hname⟩, fun _ hlevel => Nat.le_of_lt_succ hlevel.1⟩

/-- A literal keeps the parameter that was nearest before it. -/
theorem Nearest.literal {text : String} (nearest : Nearest elements place before)
    (htext : elements[place]? = some (.literal text)) : Nearest elements (place + 1) before := by
  have hsame : parameterLevels elements (place + 1) = parameterLevels elements place := by
    ext level
    constructor
    · rintro ⟨hlevel, name, hname⟩
      refine ⟨Nat.lt_of_le_of_ne (Nat.le_of_lt_succ hlevel) ?_, name, hname⟩
      rintro rfl
      cases htext.symm.trans hname
    · rintro ⟨hlevel, hparameter⟩
      exact ⟨Nat.lt_succ_of_lt hlevel, hparameter⟩
  unfold Nearest at nearest ⊢
  rwa [hsame]

/-- The first of some elements gets its token, and the others get theirs behind it. -/
theorem ofElements_cons (splitting : Bool) (pending : List String)
    (nearest : Nearest elements place before) (helement : elements[place]? = some element) :
    ∃ token before' pending',
      ofElements splitting place before pending (element :: rest) =
        token :: ofElements splitting (place + 1) before' pending' rest ∧
      token.Describes elements place ∧ Nearest elements (place + 1) before' := by
  cases element with
  | parameter name =>
      exact ⟨_, _, _, rfl, ⟨rfl, ⟨_, helement, rfl, rfl⟩, nearest⟩, nearest_of_parameter helement⟩
  | literal text =>
      exact ⟨_, _, _, rfl, ⟨rfl, ⟨_, helement, rfl, rfl⟩, nearest⟩, nearest.literal helement⟩

/-- The tokens of the elements from a place on describe them one by one. -/
theorem describes_ofElements (splitting : Bool) (pending : List String)
    (nearest : Nearest elements place before) (hrest : elements.drop place = rest) {i : Nat}
    {token : PathToken} (htoken : (ofElements splitting place before pending rest)[i]? = some token) :
    token.Describes elements (place + i) := by
  induction rest generalizing place before pending i with
  | nil => cases htoken
  | cons element rest ih =>
      have helement : elements[place]? = some element := by
        rw [← Nat.add_zero place, ← List.getElem?_drop, hrest, List.getElem?_cons_zero]
      have hnext : elements.drop (place + 1) = rest := by
        rw [← List.tail_drop, hrest, List.tail_cons]
      obtain ⟨first, before', pending', hcons, describes, nearest'⟩ :=
        @ofElements_cons elements rest element place before splitting pending nearest helement
      rw [hcons] at htoken
      cases i with
      | zero =>
          obtain rfl := Option.some.inj htoken
          exact describes
      | succ i =>
          have hplace : place + (i + 1) = place + 1 + i := by omega
          rw [hplace]
          exact ih pending' nearest' hnext htoken

/-- The tokens of all elements of a path describe them one by one. -/
theorem describes_of_getElem? {splitting : Bool} {token : PathToken}
    (htoken : (ofElements splitting 0 none [] elements)[place]? = some token) :
    token.Describes elements place := by
  have describes := describes_ofElements splitting [] (nearest_zero elements) List.drop_zero htoken
  rwa [Nat.zero_add] at describes

theorem map_text_ofElements (splitting : Bool) (place : Nat) (before : Option Nat)
    (pending : List String) (elements : List PathElement) :
    (ofElements splitting place before pending elements).map PathToken.text =
      elements.map PathElement.name :=
  map_ofElements splitting (fun _ _ _ _ => rfl) (fun _ _ _ _ => rfl) place before pending elements

end PathToken

namespace TokenMap

variable {path : Path}

/-! ## The tokens of a path -/

theorem ofPath_of_literal (hliteral : path.literals ≠ []) (splitting : Bool) :
    ofPath path splitting = ofTokens (PathToken.ofElements splitting 0 none [] path.elements) := by
  unfold ofPath
  rw [if_neg (by simpa using hliteral)]

theorem map_level_tokens (splitting : Bool) (elements : List PathElement) :
    (PathToken.ofElements splitting 0 none [] elements).map PathToken.level =
      List.range (PathToken.ofElements splitting 0 none [] elements).length := by
  rw [← List.length_map PathToken.level, PathToken.map_level_ofElements, List.length_range',
    List.range_eq_range']

/-- The tokens of a path are those of the elements that no other one displaces. -/
theorem mem_values_ofPath_iff (hliteral : path.literals ≠ []) {splitting : Bool}
    {token : PathToken} :
    token ∈ (ofPath path splitting).values ↔
      token ∈ PathToken.ofElements splitting 0 none [] path.elements ∧
        ∀ later, ¬ Displaces path.names later token.level := by
  rw [ofPath_of_literal hliteral, mem_values_ofTokens_iff (map_level_tokens splitting path.elements),
    PathToken.map_text_ofElements]
  rfl

/-- The tokens of a path, one for each element and in their order. -/
structure OneForEach (tokens : TokenMap) (path : Path) : Prop where
  length_eq : tokens.values.length = path.levels
  describes : ∀ (place : Nat) (token : PathToken), tokens.values[place]? = some token →
    token.Describes path.elements place

theorem oneForEach_of_kept (hliteral : path.literals ≠ []) (splitting : Bool)
    (hkept : ∀ level place, ¬ Displaces path.names level place) :
    OneForEach (ofPath path splitting) path := by
  have hvalues : (ofPath path splitting).values =
      PathToken.ofElements splitting 0 none [] path.elements := by
    rw [ofPath_of_literal hliteral]
    refine values_ofTokens (map_level_tokens splitting path.elements) ?_
    rw [PathToken.map_text_ofElements]
    exact hkept
  constructor
  case length_eq =>
    rw [hvalues, ← List.length_map PathToken.text, PathToken.map_text_ofElements, List.length_map]
    rfl
  case describes =>
    intro place token htoken
    rw [hvalues] at htoken
    exact PathToken.describes_of_getElem? htoken

/-- The tokens of a path describe its elements one by one if and only if no element displaces
another one; where no name holds a `#` they always do. -/
theorem oneForEach_iff (hliteral : path.literals ≠ []) (splitting : Bool) :
    (OneForEach (ofPath path splitting) path ↔
      ∀ level place, ¬ Displaces path.names level place) ∧
      ((∀ name ∈ path.names, '#' ∉ name.toList) → OneForEach (ofPath path splitting) path) := by
  refine ⟨⟨?_, oneForEach_of_kept hliteral splitting⟩, ?_⟩
  · intro each level place hdisplaces
    -- the token on the place of the displaced element would be its own
    have hplace : place < (ofPath path splitting).values.length := by
      rw [each.length_eq]
      obtain ⟨-, name, -, -, hname, -⟩ := hdisplaces
      have hlt := (List.getElem?_eq_some_iff.mp hname).1
      rwa [Path.names, List.length_map] at hlt
    have htoken := List.getElem?_eq_getElem hplace
    have hkept := ((mem_values_ofPath_iff hliteral).mp (List.mem_of_getElem? htoken)).2
    rw [(each.describes place _ htoken).level_eq] at hkept
    exact hkept level hdisplaces
  · intro hplain
    exact oneForEach_of_kept hliteral splitting fun _ _ => not_displaces_of_plain hplain

/-- A repeated name keeps both of its tokens. -/
theorem oneForEach_iff_repeated :
    (Path.ofText "/a/{id}/a").literals ≠ [] ∧
      OneForEach (ofPath (Path.ofText "/a/{id}/a") true) (Path.ofText "/a/{id}/a") := by
  have hliteral : (Path.ofText "/a/{id}/a").literals ≠ [] := by decide +kernel
  exact ⟨hliteral, (oneForEach_iff hliteral true).2 (by decide +kernel)⟩

/-- The second `a` takes the key, and the place, of the element `a#2`. -/
theorem not_oneForEach_hash :
    (Path.ofText "/a#2/a/a").literals ≠ [] ∧
      ¬ OneForEach (ofPath (Path.ofText "/a#2/a/a") true) (Path.ofText "/a#2/a/a") := by
  refine ⟨by decide +kernel, ?_⟩
  intro each
  have hlength : (ofPath (Path.ofText "/a#2/a/a") true).values.length = 2 := by decide +kernel
  have hlevels : (Path.ofText "/a#2/a/a").levels = 3 := by decide +kernel
  have heq := each.length_eq
  omega

end TokenMap

end RestCatalog
