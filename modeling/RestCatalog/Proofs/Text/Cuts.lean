import RestCatalog.Proofs.Text.Lowered
import RestCatalog.Proofs.Text.Split
import RestCatalog.Proofs.Text.Words

/-!
# Where a compound name is cut

A compound name is cut twice: at separators, which are lost, and inside what stands between
them, where nothing is lost.  Read from the left both are one rule (`endsBefore`): behind a
character that is kept the word ends if the text does, if a separator follows, or if the case
changes.  `rawPieces_of_endsBefore` and `rawPieces_of_goesOn` are that rule, and what follows is
by induction along it.

* `flatten_rawPieces`: the words hold the characters that are no separators, in order.
* `cutAfter_iff_endsBefore`: words end where the rule says so, and between two characters that are
  kept that is if separators stood there or the case changes (`endsBefore_gap_iff`).
* `rawPieces_of_plain`: in lower case nothing is left to cut.

`wordsSplit` puts this together.
-/

namespace RestCatalog.Text

variable {text rest front gap after word : List Char} {words : List (List Char)} {a b c : Char}

/-! ## Cuts inside what stands between separators -/

theorem flatten_splitHumps (text : List Char) : (splitHumps text).flatten = text := by
  fun_induction splitHumps text with
  | case1 => rfl
  | case2 a => rfl
  | case3 a b rest hnone ih =>
      rw [hnone] at ih
      cases ih
  | case4 a b rest word words hsome hends ih =>
      rw [List.flatten_cons, ← hsome, ih, List.singleton_append]
  | case5 a b rest word words hsome hgoes ih =>
      rw [List.flatten_cons, List.cons_append, ← List.flatten_cons, ← hsome, ih]

theorem exists_splitHumps_cons (b : Char) (rest : List Char) :
    ∃ word words, splitHumps (b :: rest) = word :: words := by
  refine List.exists_cons_of_ne_nil fun hnone => ?_
  have hflat := flatten_splitHumps (b :: rest)
  rw [hnone] at hflat
  cases hflat

theorem splitHumps_of_endsWord (hends : endsWord a b rest = true) :
    splitHumps (a :: b :: rest) = [a] :: splitHumps (b :: rest) := by
  obtain ⟨word, words, hrest⟩ := exists_splitHumps_cons b rest
  rw [splitHumps, hrest]
  exact if_pos hends

theorem splitHumps_of_goesOn (hgoes : endsWord a b rest = false)
    (hrest : splitHumps (b :: rest) = word :: words) :
    splitHumps (a :: b :: rest) = (a :: word) :: words := by
  rw [splitHumps, hrest]
  exact if_neg (by rw [hgoes]; exact Bool.false_ne_true)

theorem not_lower_of_isWordSeparator (hseparator : isWordSeparator c = true) :
    isAsciiLower c = false := by
  rw [Bool.eq_false_iff]
  intro hlower
  simp only [isAsciiLower, Bool.and_eq_true, decide_eq_true_eq, le_iff_toNat_le] at hlower
  have hplain : Plain c := plain_of_letterArea List.mem_cons_self hlower.1 hlower.2
  rw [hplain.not_separator] at hseparator
  cases hseparator

/-- Whether the case changes depends on the next characters only, and the piece up to the next
separator holds enough of them. -/
theorem endsWord_congr (hrest : splitOn isWordSeparator rest = word :: words) :
    endsWord a b word = endsWord a b rest := by
  have hhead : word.head?.any isAsciiLower = rest.head?.any isAsciiLower := by
    cases rest with
    | nil =>
        obtain ⟨rfl, -⟩ := List.cons.inj hrest
        rfl
    | cons c rest =>
        cases hcut : isWordSeparator c with
        | true =>
            rw [splitOn_cons_of_cut hcut] at hrest
            obtain ⟨rfl, -⟩ := List.cons.inj hrest
            simp [not_lower_of_isWordSeparator hcut]
        | false =>
            obtain ⟨first, others, hothers⟩ :=
              List.exists_cons_of_ne_nil (splitOn_ne_nil isWordSeparator rest)
            rw [splitOn_cons_of_kept hcut hothers] at hrest
            obtain ⟨rfl, -⟩ := List.cons.inj hrest
            rfl
  unfold endsWord
  rw [hhead]

/-! ## One rule for both cuts -/

/-- The words of a text as they are written. -/
def rawPieces (text : List Char) : List (List Char) :=
  (splitOn isWordSeparator text).flatMap splitHumps

theorem rawWords_eq (text : String) : rawWords text = rawPieces text.toList := rfl

/-- Whether a word ends behind a character that is kept when the text goes on like this. -/
def endsBefore (c : Char) : List Char → Bool
  | [] => true
  | b :: rest => isWordSeparator b || endsWord c b rest

theorem rawPieces_eq_append (htext : splitOn isWordSeparator text = word :: words) :
    rawPieces text = splitHumps word ++ words.flatMap splitHumps := by
  unfold rawPieces
  rw [htext, List.flatMap_cons]

theorem rawPieces_of_isWordSeparator (hseparator : isWordSeparator c = true) (rest : List Char) :
    rawPieces (c :: rest) = rawPieces rest :=
  rawPieces_eq_append (splitOn_cons_of_cut hseparator rest)

theorem rawPieces_of_endsBefore (hkept : isWordSeparator c = false)
    (hends : endsBefore c rest = true) : rawPieces (c :: rest) = [c] :: rawPieces rest := by
  cases rest with
  | nil =>
      have hnil : splitOn isWordSeparator [] = [[]] := rfl
      exact rawPieces_eq_append (splitOn_cons_of_kept hkept hnil)
  | cons b rest =>
      cases hcut : isWordSeparator b with
      | true =>
          have hrest := splitOn_cons_of_cut hcut rest
          rw [rawPieces_of_isWordSeparator hcut]
          exact rawPieces_eq_append (splitOn_cons_of_kept hkept hrest)
      | false =>
          obtain ⟨piece, pieces, hpieces⟩ :=
            List.exists_cons_of_ne_nil (splitOn_ne_nil isWordSeparator rest)
          have hrest := splitOn_cons_of_kept hcut hpieces
          rw [endsBefore, hcut, Bool.false_or, ← endsWord_congr hpieces] at hends
          rw [rawPieces_eq_append (splitOn_cons_of_kept hkept hrest), rawPieces_eq_append hrest,
            splitHumps_of_endsWord hends, List.cons_append]

theorem rawPieces_of_goesOn (hkept : isWordSeparator c = false)
    (hgoes : endsBefore c rest = false) : ∃ word words, rawPieces rest = word :: words ∧
      rawPieces (c :: rest) = (c :: word) :: words := by
  cases rest with
  | nil => cases hgoes
  | cons b rest =>
      obtain ⟨hcut, hgoes⟩ : isWordSeparator b = false ∧ endsWord c b rest = false :=
        Bool.or_eq_false_iff.mp hgoes
      obtain ⟨piece, pieces, hpieces⟩ :=
        List.exists_cons_of_ne_nil (splitOn_ne_nil isWordSeparator rest)
      have hrest := splitOn_cons_of_kept hcut hpieces
      rw [← endsWord_congr hpieces] at hgoes
      obtain ⟨word, words, hwords⟩ := exists_splitHumps_cons b piece
      refine ⟨word, words ++ pieces.flatMap splitHumps, ?_, ?_⟩
      · rw [rawPieces_eq_append hrest, hwords, List.cons_append]
      · rw [rawPieces_eq_append (splitOn_cons_of_kept hkept hrest),
          splitHumps_of_goesOn hgoes hwords, List.cons_append]

theorem ne_nil_of_mem_rawPieces (hword : word ∈ rawPieces text) : word ≠ [] := by
  obtain ⟨piece, -, hpiece⟩ := List.mem_flatMap.mp hword
  exact ne_nil_of_mem_splitHumps hpiece

/-- The words hold what is left of the text without its separators. -/
theorem flatten_rawPieces (text : List Char) :
    (rawPieces text).flatten = text.filter fun c => !isWordSeparator c := by
  induction text with
  | nil => rfl
  | cons c rest ih =>
      cases hcut : isWordSeparator c with
      | true => rw [rawPieces_of_isWordSeparator hcut, ih, List.filter_cons_of_neg (by simp [hcut])]
      | false =>
          rw [List.filter_cons_of_pos (by simp [hcut]), ← ih]
          cases hends : endsBefore c rest with
          | true => rw [rawPieces_of_endsBefore hcut hends, List.flatten_cons, List.singleton_append]
          | false =>
              obtain ⟨word, words, hrest, htext⟩ := rawPieces_of_goesOn hcut hends
              rw [htext, hrest, List.flatten_cons, List.flatten_cons, List.cons_append]

/-! ## Where words end -/

/-- The first words hold these characters and no others, so a word ends behind them. -/
def CutAfter (words : List (List Char)) (front : List Char) : Prop :=
  ∃ first, first <+: words ∧ first.flatten = front

theorem cutAfter_nil (words : List (List Char)) : CutAfter words [] :=
  ⟨[], List.nil_prefix, rfl⟩

/-- A word of its own in front moves every end by one. -/
theorem cutAfter_singleton_cons : CutAfter ([c] :: words) (c :: front) ↔ CutAfter words front := by
  constructor
  · rintro ⟨first, hprefix, hflat⟩
    cases first with
    | nil => cases hflat
    | cons head first =>
        obtain ⟨rfl, hrest⟩ := List.cons_prefix_cons.mp hprefix
        exact ⟨first, hrest, (List.cons.inj hflat).2⟩
  · rintro ⟨first, hprefix, rfl⟩
    exact ⟨[c] :: first, List.cons_prefix_cons.mpr ⟨rfl, hprefix⟩, rfl⟩

/-- So does a character in front of the first word, except that no word ends before it. -/
theorem cutAfter_cons_cons (hfront : front ≠ []) :
    CutAfter ((c :: word) :: words) (c :: front) ↔ CutAfter (word :: words) front := by
  constructor
  · rintro ⟨first, hprefix, hflat⟩
    cases first with
    | nil => cases hflat
    | cons head first =>
        obtain ⟨rfl, hrest⟩ := List.cons_prefix_cons.mp hprefix
        exact ⟨word :: first, List.cons_prefix_cons.mpr ⟨rfl, hrest⟩, (List.cons.inj hflat).2⟩
  · rintro ⟨first, hprefix, rfl⟩
    cases first with
    | nil => exact absurd rfl hfront
    | cons head first =>
        obtain ⟨rfl, hrest⟩ := List.cons_prefix_cons.mp hprefix
        exact ⟨(c :: head) :: first, List.cons_prefix_cons.mpr ⟨rfl, hrest⟩, rfl⟩

/-- The first character is a word if its word ends behind it. -/
theorem cutAfter_first_iff (hkept : isWordSeparator a = false) :
    CutAfter (rawPieces (a :: rest)) [a] ↔ endsBefore a rest = true := by
  cases hends : endsBefore a rest with
  | true =>
      rw [rawPieces_of_endsBefore hkept hends, cutAfter_singleton_cons]
      exact iff_of_true (cutAfter_nil _) rfl
  | false =>
      obtain ⟨word, words, hrest, htext⟩ := rawPieces_of_goesOn hkept hends
      refine iff_of_false ?_ Bool.false_ne_true
      rw [htext]
      rintro ⟨first, hprefix, hflat⟩
      cases first with
      | nil => cases hflat
      | cons head first =>
          obtain ⟨rfl, -⟩ := List.cons_prefix_cons.mp hprefix
          -- the word that goes on has a second character
          have hsome : word ≠ [] := ne_nil_of_mem_rawPieces (hrest ▸ List.mem_cons_self)
          have hnone := (List.append_eq_nil_iff.mp (List.cons.inj hflat).2).1
          exact hsome hnone

/-- Words end where the rule says so, whatever stands before. -/
theorem cutAfter_iff_endsBefore (hkept : isWordSeparator a = false) (before rest : List Char) :
    CutAfter (rawPieces (before ++ a :: rest))
        ((before ++ [a]).filter fun c => !isWordSeparator c) ↔ endsBefore a rest = true := by
  induction before with
  | nil =>
      rw [List.nil_append, List.nil_append, List.filter_cons_of_pos (by simp [hkept]),
        List.filter_nil]
      exact cutAfter_first_iff hkept
  | cons c before ih =>
      rw [List.cons_append, List.cons_append]
      cases hcut : isWordSeparator c with
      | true =>
          rw [rawPieces_of_isWordSeparator hcut, List.filter_cons_of_neg (by simp [hcut])]
          exact ih
      | false =>
          have hfront : (before ++ [a]).filter (fun c => !isWordSeparator c) ≠ [] := by
            simp [hkept]
          rw [List.filter_cons_of_pos (by simp [hcut])]
          refine Iff.trans ?_ ih
          cases hends : endsBefore c (before ++ a :: rest) with
          | true => rw [rawPieces_of_endsBefore hcut hends, cutAfter_singleton_cons]
          | false =>
              obtain ⟨word, words, hrest, htext⟩ := rawPieces_of_goesOn hcut hends
              rw [htext, hrest, cutAfter_cons_cons hfront]

/-- Of two neighbours among the characters that are kept, the first ends a word if separators
stood between them, or if the case changes there. -/
theorem endsBefore_gap_iff (hsecond : isWordSeparator b = false)
    (hgap : ∀ c ∈ gap, isWordSeparator c = true) :
    endsBefore a (gap ++ b :: after) = true ↔ gap ≠ [] ∨ endsWord a b after = true := by
  cases gap with
  | nil => simp [endsBefore, hsecond]
  | cons c gap => simp [endsBefore, hgap c List.mem_cons_self]

/-! ## Words in lower case -/

/-- A text without separators and capitals is one word. -/
theorem rawPieces_of_plain (hplain : ∀ c ∈ text, Plain c) (hsome : text ≠ []) :
    rawPieces text = [text] := by
  induction text with
  | nil => exact absurd rfl hsome
  | cons c rest ih =>
      have hkept : isWordSeparator c = false := (hplain c List.mem_cons_self).not_separator
      cases rest with
      | nil => exact rawPieces_of_endsBefore hkept rfl
      | cons b rest =>
          have hb : Plain b := hplain b (List.mem_cons_of_mem _ List.mem_cons_self)
          have hgoes : endsBefore c (b :: rest) = false := by
            simp [endsBefore, endsWord, hb.not_separator, hb.not_upper]
          obtain ⟨word, words, hrest, htext⟩ := rawPieces_of_goesOn hkept hgoes
          rw [ih (fun c hc => hplain c (List.mem_cons_of_mem _ hc)) (List.cons_ne_nil b rest)] at hrest
          obtain ⟨rfl, rfl⟩ := List.cons.inj hrest
          exact htext

/-! ## The words of a text -/

/-- How a text is cut into words: nothing but separators is lost, and the words end where they
have to. -/
structure CutIntoWords (text : List Char) (words : List (List Char)) : Prop where
  ne_nil : ∀ word ∈ words, word ≠ []
  flatten_eq : words.flatten = text.filter fun c => !isWordSeparator c
  /-- The characters `a` and `b` are neighbours among those that are kept. -/
  cutAfter_iff : ∀ before a gap b after, text = before ++ a :: (gap ++ b :: after) →
    isWordSeparator a = false → isWordSeparator b = false →
    (∀ c ∈ gap, isWordSeparator c = true) →
      (CutAfter words ((before ++ [a]).filter fun c => !isWordSeparator c) ↔
        gap ≠ [] ∨
        (isAsciiLower a = true ∨ isAsciiDigit a = true) ∧ isAsciiUpper b = true ∨
        isAsciiUpper a = true ∧ isAsciiUpper b = true ∧ ∃ c ∈ after.head?, isAsciiLower c = true)

theorem endsWord_iff : endsWord a b after = true ↔
    (isAsciiLower a = true ∨ isAsciiDigit a = true) ∧ isAsciiUpper b = true ∨
      isAsciiUpper a = true ∧ isAsciiUpper b = true ∧ ∃ c ∈ after.head?, isAsciiLower c = true := by
  have hnext : after.head?.any isAsciiLower = true ↔ ∃ c ∈ after.head?, isAsciiLower c = true := by
    cases after <;> simp
  simp only [endsWord, Bool.and_eq_true, Bool.or_eq_true, hnext]
  rw [and_or_left, and_comm, and_left_comm (b := isAsciiUpper a = true)]

theorem cutIntoWords_rawPieces (text : List Char) : CutIntoWords text (rawPieces text) := by
  constructor
  case ne_nil => exact fun word => ne_nil_of_mem_rawPieces
  case flatten_eq => exact flatten_rawPieces text
  case cutAfter_iff =>
    rintro before a gap b after rfl hfirst hsecond hgap
    rw [cutAfter_iff_endsBefore hfirst, endsBefore_gap_iff hsecond hgap, endsWord_iff]

theorem not_separator_of_mem_rawPieces (hword : word ∈ rawPieces text) (hc : c ∈ word) :
    isWordSeparator c = false := by
  have hmem : c ∈ (rawPieces text).flatten := List.mem_flatten.mpr ⟨word, hword, hc⟩
  rw [flatten_rawPieces, List.mem_filter] at hmem
  simpa using hmem.2

/-! ## Splitting a text -/

section

variable {text word : String}

theorem splitWords_of_length_lt (hfew : (rawWords text).length < 2) : splitWords text = [] := by
  unfold splitWords
  split
  case h_1 hraw =>
    rw [hraw, List.length_cons, List.length_cons] at hfew
    omega
  case h_2 => rfl

theorem splitWords_of_le_length (hmany : 2 ≤ (rawWords text).length) :
    splitWords text = (rawWords text).map fun word => lower (String.ofList word) := by
  unfold splitWords
  split
  case h_1 hraw => simp only [hraw, lower, String.toList_ofList]
  case h_2 hfew =>
    match hraw : rawWords text, hmany with
    | first :: second :: more, _ => exact absurd hraw (hfew first second more)

theorem splitWords_of_mem (hword : word ∈ splitWords text) : splitWords word = [] := by
  apply splitWords_of_length_lt
  by_cases hmany : 2 ≤ (rawWords text).length
  case pos =>
    rw [splitWords_of_le_length hmany] at hword
    obtain ⟨raw, hraw, rfl⟩ := List.mem_map.mp hword
    have hkept : ∀ c ∈ raw, isWordSeparator c = false :=
      fun c => not_separator_of_mem_rawPieces hraw
    have hsome := lowerFrom_ne_nil (ne_nil_of_mem_rawPieces hraw) []
    rw [lower, String.toList_ofList, rawWords_eq, String.toList_ofList,
      rawPieces_of_plain (fun c => plain_of_mem_lowerFrom hkept) hsome, List.length_singleton]
    omega
  case neg =>
    rw [splitWords_of_length_lt (Nat.lt_of_not_le hmany)] at hword
    cases hword

end

/-- What splitting a text into words comes to. -/
structure WordsSplit (text : String) : Prop where
  cutIntoWords : CutIntoWords text.toList (rawWords text)
  eq_nil_iff : splitWords text = [] ↔ (rawWords text).length < 2
  eq_map : 2 ≤ (rawWords text).length →
    splitWords text = (rawWords text).map fun word => lower (String.ofList word)
  ne_empty : ∀ word ∈ splitWords text, word ≠ ""
  /-- A word that was split off is not split again. -/
  splitWords_word : ∀ word ∈ splitWords text, splitWords word = []

/-- Splitting loses nothing but separators, cuts wherever it has to, and leaves nothing to cut. -/
theorem wordsSplit (text : String) : WordsSplit text := by
  constructor
  case cutIntoWords => exact cutIntoWords_rawPieces text.toList
  case eq_nil_iff =>
    refine ⟨fun hnil => Nat.lt_of_not_le fun hmany => ?_, splitWords_of_length_lt⟩
    have hraw := splitWords_of_le_length hmany
    rw [hnil] at hraw
    rw [List.map_eq_nil_iff.mp hraw.symm] at hmany
    cases hmany
  case eq_map => exact splitWords_of_le_length
  case ne_empty => exact fun word => ne_empty_of_mem_splitWords
  case splitWords_word => exact fun word => splitWords_of_mem

example : splitWords "SHOPItems_v2Beta" = ["shop", "items", "v2", "beta"] := by decide +kernel

end RestCatalog.Text
