import Mathlib.Data.List.Infix
import RestCatalog.Proofs.Text.Lowered
import RestCatalog.Table.Match

/-!
# Spellings of one name

A table and the words of a path rarely spell a name alike.  The normal form is meant to see
through the case of ASCII letters, through separators, and through the `s` of a plural.

* Of a text only its letters and digits matter, and those of a respelling are the same
  (`Respelled.normalLetters_eq`).
* An `s` behind a name that has none there is dropped again (`foldPlural_append_s`), with one
  exception: behind `ie` it makes the ending `ies`, and that becomes `y` whatever name it was.
  So `movies` is read as `movy` (`foldPlural_append_s_of_longIe`).

`namedAlike_iff` puts both together: a respelling or plural of a name matches it unless it is the
plural of a longer name in `ie`.
-/

namespace RestCatalog

open Text

/-! ## Letters and digits -/

/-- The characters that a normal form is made of. -/
def isNormal (c : Char) : Bool := isAsciiLower c || isAsciiDigit c

/-- What a character leaves in a normal form. -/
def normalChars (c : Char) : List Char := (lowerChar c).filter isNormal

/-- The letters and digits of a text, in lower case. -/
def normalLetters (text : String) : List Char := (lower text).toList.filter isNormal

theorem normalName_eq (text : String) :
    normalName text = String.ofList (foldPlural (normalLetters text)) := rfl

theorem lowerChar_toLower (c : Char) : lowerChar c.toLower = lowerChar c := by
  by_cases hascii : c.toNat < 128
  · apply forall_ascii ?_ hascii
    decide +kernel
  · have hother : c.toLower = c := by
      have hlarge : ¬ c.val ≤ 'Z'.val := fun hle => hascii (by
        have hnat : c.toNat ≤ 'Z'.toNat := UInt32.le_iff_toNat_le.mp hle
        have hz : 'Z'.toNat = 90 := rfl
        omega)
      unfold Char.toLower
      rw [dif_neg fun hcapital => hlarge hcapital.2]
    rw [hother]

/-- What stands around a character decides about a sigma only, which is no ASCII letter. -/
theorem filter_lowerFrom (before text : List Char) :
    (lowerFrom before text).filter isNormal = text.flatMap normalChars := by
  induction text generalizing before with
  | nil => rfl
  | cons c rest ih =>
      rw [lowerFrom, List.filter_append, ih, List.flatMap_cons]
      congr 1
      split
      case isTrue hsigma =>
        obtain ⟨⟨rfl, -⟩, -⟩ : (c = '\u03a3' ∧ _) ∧ _ := by
          simpa only [Bool.and_eq_true, decide_eq_true_eq] using hsigma
        decide +kernel
      case isFalse => rfl

theorem normalLetters_eq_flatMap (text : String) :
    normalLetters text = text.toList.flatMap normalChars := by
  unfold normalLetters lower
  rw [String.toList_ofList, filter_lowerFrom]

/-! ## Respellings -/

/-- The characters that compound names are written with. -/
def isSeparator (c : Char) : Bool := c = '_' || c = '-' || c = '.' || c = ' '

/-- A text written with other cases of its ASCII letters, and with separators put in anywhere. -/
inductive Respelled : List Char → List Char → Prop where
  | nil : Respelled [] []
  | letter {a b : Char} {word text : List Char} (hcase : a.toLower = b.toLower)
      (respelled : Respelled word text) : Respelled (a :: word) (b :: text)
  | separator {c : Char} {word text : List Char} (hseparator : isSeparator c = true)
      (respelled : Respelled word text) : Respelled word (c :: text)

variable {c : Char} {word text : List Char} {w u : String}

theorem Respelled.refl (text : List Char) : Respelled text text := by
  induction text with
  | nil => exact .nil
  | cons c text ih => exact .letter rfl ih

theorem normalChars_of_isSeparator (hseparator : isSeparator c = true) : normalChars c = [] := by
  simp only [isSeparator, Bool.or_eq_true, decide_eq_true_eq] at hseparator
  rcases hseparator with ((rfl | rfl) | rfl) | rfl <;> decide +kernel

/-- A respelling has the letters and digits of the text. -/
theorem Respelled.flatMap_normalChars (respelled : Respelled word text) :
    text.flatMap normalChars = word.flatMap normalChars := by
  induction respelled with
  | nil => rfl
  | @letter a b word text hcase _ ih =>
      have hsame : normalChars b = normalChars a := by
        unfold normalChars
        rw [← lowerChar_toLower b, ← hcase, lowerChar_toLower]
      rw [List.flatMap_cons, List.flatMap_cons, hsame, ih]
  | separator hseparator _ ih =>
      rw [List.flatMap_cons, normalChars_of_isSeparator hseparator, List.nil_append, ih]

theorem Respelled.normalLetters_eq (respelled : Respelled w.toList u.toList) :
    normalLetters u = normalLetters w := by
  rw [normalLetters_eq_flatMap, normalLetters_eq_flatMap, respelled.flatMap_normalChars]

/-- The respelling of a plural has one more `s`. -/
theorem Respelled.normalLetters_plural (respelled : Respelled (w.toList ++ ['s']) u.toList) :
    normalLetters u = normalLetters w ++ ['s'] := by
  have hs : normalChars 's' = ['s'] := by decide +kernel
  rw [normalLetters_eq_flatMap, normalLetters_eq_flatMap, respelled.flatMap_normalChars,
    List.flatMap_append, List.flatMap_singleton, hs]

/-! ## Endings -/

/-- Names that end in `ie` and are longer than that: their plurals look like those of names that
end in `y`. -/
def LongIe (name : List Char) : Prop := 3 ≤ name.length ∧ ['i', 'e'] <:+ name
deriving Decidable

variable {name ending : List Char}

private theorem suffix_append_s_iff : ending ++ ['s'] <:+ name ++ ['s'] ↔ ending <:+ name := by
  rw [List.suffix_append_inj_of_length_eq rfl, and_iff_left rfl]

section

variable (hsingular : ¬ ['s'] <:+ name)
include hsingular

theorem foldPlural_of_singular : foldPlural name = name := by
  have hies : (['i', 'e', 's'].isSuffixOf name) = false := by
    rw [Bool.eq_false_iff, Ne, List.isSuffixOf_iff_suffix]
    exact fun hsuffix => hsingular ((List.suffix_append ['i', 'e'] ['s']).trans hsuffix)
  have hs : (['s'].isSuffixOf name) = false := by
    rwa [Bool.eq_false_iff, Ne, List.isSuffixOf_iff_suffix]
  simp [foldPlural, hies, hs]

/-- The `s` of a plural is dropped again. -/
theorem foldPlural_append_s (hsome : name ≠ []) (hother : ¬ LongIe name) :
    foldPlural (name ++ ['s']) = name := by
  have hlength : 0 < name.length := List.length_pos_of_ne_nil hsome
  have hies : (3 < (name ++ ['s']).length && ['i', 'e', 's'].isSuffixOf (name ++ ['s'])) =
      false := by
    rw [Bool.eq_false_iff, Ne, Bool.and_eq_true, decide_eq_true_eq, List.isSuffixOf_iff_suffix]
    rintro ⟨hlong, hsuffix⟩
    have hie : ['i', 'e'] <:+ name := suffix_append_s_iff.mp hsuffix
    refine hother ⟨?_, hie⟩
    rw [List.length_append, List.length_singleton] at hlong
    omega
  have hs : ['s'].isSuffixOf (name ++ ['s']) = true :=
    List.isSuffixOf_iff_suffix.mpr (List.suffix_append name ['s'])
  have hss : ['s', 's'].isSuffixOf (name ++ ['s']) = false := by
    rw [Bool.eq_false_iff, Ne, List.isSuffixOf_iff_suffix]
    intro hsuffix
    have hs : ['s'] <:+ name := suffix_append_s_iff.mp hsuffix
    exact hsingular hs
  unfold foldPlural
  rw [hies, if_neg Bool.false_ne_true, hs, hss, if_pos (by simpa using hlength)]
  simp

end

/-- Behind a long name in `ie` the `s` is read as the end of `ies`. -/
theorem foldPlural_append_s_of_longIe (hlong : LongIe name) :
    foldPlural (name ++ ['s']) = name.take (name.length - 2) ++ ['y'] := by
  obtain ⟨hlength, hie⟩ := hlong
  have hies : (['i', 'e'] ++ ['s']).isSuffixOf (name ++ ['s']) = true :=
    List.isSuffixOf_iff_suffix.mpr (suffix_append_s_iff.mpr hie)
  have htake : (name ++ ['s']).take ((name ++ ['s']).length - 3) =
      name.take (name.length - 2) := by
    rw [List.length_append, List.length_singleton, List.take_append_of_le_length (by omega)]
    rfl
  have hlonger : 3 < (name ++ ['s']).length := by
    rw [List.length_append, List.length_singleton]
    omega
  unfold foldPlural
  rw [show ['i', 'e', 's'] = ['i', 'e'] ++ ['s'] from rfl, hies, Bool.and_true,
    if_pos (decide_eq_true hlonger), htake]

/-! ## Names that match -/

/-- A name and a spelling of it have one normal form, and match each other as a whole, whichever
is the table. -/
structure NamedAlike (w u : String) : Prop where
  normalName_eq : normalName u = normalName w
  match_table : ⟨w, u, .whole⟩ ∈ matchTables [w] [u]
  match_word : ⟨u, w, .whole⟩ ∈ matchTables [u] [w]

theorem mem_matchTables_singleton :
    ⟨w, u, .whole⟩ ∈ matchTables [w] [u] ↔ normalName u ≠ "" ∧ normalName u = normalName w := by
  simp [matchTables, tablesNamed, neighbourJoins, List.eraseDups_cons]

theorem namedAlike_of_normalName_eq (hsome : normalName w ≠ "")
    (hsame : normalName u = normalName w) : NamedAlike w u where
  normalName_eq := hsame
  match_table := mem_matchTables_singleton.mpr ⟨fun hempty => hsome (hsame ▸ hempty), hsame⟩
  match_word := mem_matchTables_singleton.mpr ⟨hsome, hsame.symm⟩

/-- A respelling of a name that does not end in `s`, or of its plural, is named alike, unless it
is the plural of a long name in `ie`. -/
theorem namedAlike_iff {plural : Bool} (hsome : normalLetters w ≠ [])
    (hsingular : ¬ ['s'] <:+ normalLetters w)
    (respelled : Respelled (w.toList ++ if plural then ['s'] else []) u.toList) :
    NamedAlike w u ↔ ¬ (plural = true ∧ LongIe (normalLetters w)) := by
  have hname : normalName w = String.ofList (normalLetters w) := by
    rw [normalName_eq, foldPlural_of_singular hsingular]
  have hnonempty : normalName w ≠ "" := by
    rw [hname]
    intro hempty
    exact hsome (String.ofList_eq_empty_iff.mp hempty)
  cases plural with
  | false =>
      rw [if_neg Bool.false_ne_true, List.append_nil] at respelled
      have halike : NamedAlike w u := by
        apply namedAlike_of_normalName_eq hnonempty
        rw [normalName_eq, normalName_eq, respelled.normalLetters_eq]
      exact iff_of_true halike fun hplural => Bool.false_ne_true hplural.1
  | true =>
      rw [if_pos rfl] at respelled
      have hplural : normalName u = String.ofList (foldPlural (normalLetters w ++ ['s'])) := by
        rw [normalName_eq, respelled.normalLetters_plural]
      by_cases hlong : LongIe (normalLetters w)
      · refine iff_of_false (fun halike => ?_) fun hother => hother ⟨rfl, hlong⟩
        -- the normal forms differ in length
        have hsame := halike.normalName_eq
        rw [hplural, foldPlural_append_s_of_longIe hlong, hname, String.ofList_inj] at hsame
        have hlength := congrArg List.length hsame
        have hlower := hlong.1
        simp only [List.length_append, List.length_take, List.length_singleton] at hlength
        omega
      · have halike : NamedAlike w u := by
          apply namedAlike_of_normalName_eq hnonempty
          rw [hplural, foldPlural_append_s hsingular hsome hlong, hname]
        exact iff_of_true halike fun hother => hlong hother.2

/-- Capitals, a dash and the plural of a name. -/
theorem namedAlike_iff_userShop :
    normalLetters "userShop" ≠ [] ∧ ¬ ['s'] <:+ normalLetters "userShop" ∧
      Respelled ("userShop".toList ++ ['s']) "User-SHOPS".toList ∧
      NamedAlike "userShop" "User-SHOPS" := by
  have hsome : normalLetters "userShop" ≠ [] := by decide +kernel
  have hsingular : ¬ ['s'] <:+ normalLetters "userShop" := by decide +kernel
  have respelled : Respelled ("userShop".toList ++ if true then ['s'] else [])
      "User-SHOPS".toList := by
    rw [if_pos rfl]
    exact .letter rfl <| .letter rfl <| .letter rfl <| .letter rfl <| .separator rfl <|
      .letter rfl <| .letter rfl <| .letter rfl <| .letter rfl <| .letter rfl .nil
  have hshort : ¬ LongIe (normalLetters "userShop") := by decide +kernel
  exact ⟨hsome, hsingular, respelled,
    (namedAlike_iff hsome hsingular respelled).mpr fun hlong => hshort hlong.2⟩

/-- The plural of `movie` is read as that of `movy`. -/
theorem not_namedAlike_movie :
    normalLetters "movie" ≠ [] ∧ ¬ ['s'] <:+ normalLetters "movie" ∧
      Respelled ("movie".toList ++ ['s']) "movies".toList ∧ ¬ NamedAlike "movie" "movies" := by
  have hplural : "movie".toList ++ ['s'] = "movies".toList := by decide +kernel
  refine ⟨by decide +kernel, by decide +kernel, ?_, ?_⟩
  · rw [hplural]
    exact Respelled.refl "movies".toList
  · intro halike
    have hdiffer : normalName "movies" ≠ normalName "movie" := by decide +kernel
    exact hdiffer halike.normalName_eq

end RestCatalog
