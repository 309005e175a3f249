import RestCatalog.Text.Words

/-!
# Characters of a lowered text

Lowering leaves no ASCII capital in a text, and it makes no character that separates words of one
that does not (`plain_of_mem_lowerFrom`).  For ASCII letters this is seen one by one.  The images
of all other letters come from a table of runs, and every run ends up in one of a few areas of
code points (`letterAreas`) that hold neither capitals nor separators.
-/

namespace RestCatalog.Text

variable {c d : Char} {text before : List Char}

/-- Neither an ASCII capital nor a character that separates words. -/
structure Plain (c : Char) : Prop where
  not_separator : isWordSeparator c = false
  not_upper : isAsciiUpper c = false

/-- What holds of every code below 128 holds of every ASCII character. -/
theorem forall_ascii {holds : Char → Prop} (hall : ∀ n < 128, holds (Char.ofNat n))
    (hascii : c.toNat < 128) : holds c := by
  have hchar := hall c.toNat hascii
  rwa [Char.ofNat_toNat] at hchar

theorem le_iff_toNat_le {a b : Char} : a ≤ b ↔ a.toNat ≤ b.toNat := UInt32.le_iff_toNat_le

/-! ## Images in the table -/

/-- Areas of code points without separators and ASCII capitals. -/
def letterAreas : List (Nat × Nat) :=
  [(0x61, 0x7A), (0xA1, 0x167F), (0x1681, 0x1FFF), (0x2060, 0x2FFF), (0x3001, 0x10FFFF)]

theorem plain_of_letterArea {area : Nat × Nat} (harea : area ∈ letterAreas)
    (hfrom : area.1 ≤ c.toNat) (hto : c.toNat ≤ area.2) : Plain c := by
  have hunderscore : '_'.toNat = 95 := rfl
  have hdash : '-'.toNat = 45 := rfl
  have hdot : '.'.toNat = 46 := rfl
  have hfirst : 'A'.toNat = 65 := rfl
  have hlast : 'Z'.toNat = 90 := rfl
  simp only [letterAreas, List.mem_cons, List.not_mem_nil, or_false] at harea
  constructor
  case not_separator =>
    simp only [isWordSeparator, isBlank, ← Char.toNat_inj, Bool.or_eq_false_iff,
      Bool.and_eq_false_iff, decide_eq_false_iff_not, beq_eq_false_iff_ne]
    rcases harea with rfl | rfl | rfl | rfl | rfl <;> dsimp only at hfrom hto <;> omega
  case not_upper =>
    simp only [isAsciiUpper, le_iff_toNat_le, Bool.and_eq_false_iff, decide_eq_false_iff_not]
    rcases harea with rfl | rfl | rfl | rfl | rfl <;> dsimp only at hfrom hto <;> omega

/-- The images of each run lie in one area. -/
theorem exists_letterArea : ∀ run ∈ lowerRuns, ∃ area ∈ letterAreas,
    area.1 ≤ run.image ∧ run.image + (run.last - run.first) ≤ area.2 := by
  decide +kernel

/-- A number that is no character's stands for the character zero. -/
theorem toNat_ofNat_or (n : Nat) : (Char.ofNat n).toNat = n ∨ Char.ofNat n = '\x00' := by
  rw [Char.ofNat]
  by_cases hvalid : n.isValidChar
  case pos =>
    rw [dif_pos hvalid]
    exact .inl rfl
  case neg =>
    rw [dif_neg hvalid]
    exact .inr rfl

theorem plain_imageOf {run : CaseRun} (hrun : run ∈ lowerRuns) {n : Nat}
    (hlists : run.lists n = true) : Plain (Char.ofNat (run.imageOf n)) := by
  rcases toNat_ofNat_or (run.imageOf n) with hcode | hnone
  · obtain ⟨area, harea, hfrom, hto⟩ := exists_letterArea run hrun
    simp only [CaseRun.lists, Bool.and_eq_true, decide_eq_true_eq] at hlists
    obtain ⟨⟨hfirst, hlast⟩, -⟩ := hlists
    refine plain_of_letterArea harea ?_ ?_
    · rw [hcode, CaseRun.imageOf]
      omega
    · rw [hcode, CaseRun.imageOf]
      omega
  · rw [hnone]
    exact ⟨by decide, by decide⟩

/-! ## Lowering -/

/-- A character that no run lists is its own image, and no ASCII capital if it is no ASCII
character. -/
theorem plain_caseImage (hcode : 128 ≤ c.toNat) (hkept : isWordSeparator c = false) :
    Plain (caseImage lowerRuns c) := by
  unfold caseImage
  split
  case h_1 run hfound =>
    have hlists : run.lists c.toNat = true := by
      simpa using List.find?_some hfound
    exact plain_imageOf (List.mem_of_find?_eq_some hfound) hlists
  case h_2 =>
    refine ⟨hkept, ?_⟩
    have hlast : 'Z'.toNat = 90 := rfl
    simp only [isAsciiUpper, le_iff_toNat_le, Bool.and_eq_false_iff, decide_eq_false_iff_not]
    omega

theorem plain_of_mem_lowerChar (hkept : isWordSeparator c = false) (hd : d ∈ lowerChar c) :
    Plain d := by
  by_cases hascii : c.toNat < 128
  · have hall : (isWordSeparator c ||
        (lowerChar c).all fun d => !isWordSeparator d && !isAsciiUpper d) = true := by
      apply forall_ascii ?_ hascii
      decide +kernel
    rw [hkept, Bool.false_or, List.all_eq_true] at hall
    obtain ⟨hseparator, hupper⟩ := Bool.and_eq_true_iff.mp (hall d hd)
    exact ⟨by simpa using hseparator, by simpa using hupper⟩
  · unfold lowerChar at hd
    rw [if_neg hascii] at hd
    split at hd
    case isTrue =>
      simp only [List.mem_cons, List.not_mem_nil, or_false] at hd
      rcases hd with rfl | rfl <;> exact ⟨by decide, by decide⟩
    case isFalse =>
      rw [List.mem_singleton.mp hd]
      exact plain_caseImage (Nat.le_of_not_lt hascii) hkept

/-- A lowered text without separators is plain. -/
theorem plain_of_mem_lowerFrom (hkept : ∀ c ∈ text, isWordSeparator c = false)
    (hd : d ∈ lowerFrom before text) : Plain d := by
  induction text generalizing before with
  | nil => cases hd
  | cons c rest ih =>
      rw [lowerFrom, List.mem_append] at hd
      rcases hd with hfirst | hrest
      · split at hfirst
        case isTrue =>
          rw [List.mem_singleton.mp hfirst]
          exact ⟨by decide, by decide⟩
        case isFalse => exact plain_of_mem_lowerChar (hkept c List.mem_cons_self) hfirst
      · exact ih (fun c hc => hkept c (List.mem_cons_of_mem _ hc)) hrest

end RestCatalog.Text
