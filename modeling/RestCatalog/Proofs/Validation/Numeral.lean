import RestCatalog.Proofs.Text.Strip
import RestCatalog.Validation.Basic

/-!
# Texts that write integers

A `Numeral` is a sign, digits that single underscores may stand between, and a fraction of zeros
at most, with white space around it.  These are the texts that are read as integers, and each is
read as the integer that it writes (`intOfText?_eq_some_iff`):

* what is stripped is the white space around it, since no character of a numeral is white space
  (`not_isNumeralBlank`);
* the point divides the digits from the fraction (`cut_at_point`);
* the digits are those of the groups (`joinedDigits?_eq_some_iff`), behind a sign
  (`intOfNumeral?_eq_some_iff`).
-/

namespace RestCatalog

/-- The white space that may stand around a numeral. -/
def whiteSpace : List Char :=
  ['\t', '\n', '\x0b', '\x0c', '\r', ' ', '\x85', '\u00a0', '\u1680', '\u2000', '\u2001', '\u2002',
    '\u2003', '\u2004', '\u2005', '\u2006', '\u2007', '\u2008', '\u2009', '\u200a', '\u2028',
    '\u2029', '\u202f', '\u205f', '\u3000']

/-- A sign and the factor that it stands for. -/
inductive Sign : List Char → Int → Prop
  | none : Sign [] 1
  | plus : Sign ['+'] 1
  | minus : Sign ['-'] (-1)

/-- One digit or more, and the same with single underscores between digits. -/
inductive Grouped : List Char → List Char → Prop
  | last {c : Char} : c.isDigit → Grouped [c] [c]
  | next {c : Char} {text digits : List Char} : c.isDigit → Grouped text digits →
      Grouped (c :: text) (c :: digits)
  | underscore {c : Char} {text digits : List Char} : c.isDigit → Grouped text digits →
      Grouped (c :: '_' :: text) (c :: digits)

/-- A fraction of zeros, or none. -/
inductive NoFraction : List Char → Prop
  | none : NoFraction []
  | point {zeros : List Char} : (∀ c ∈ zeros, c = '0') → NoFraction ('.' :: zeros)

/-- A text that writes an integer. -/
inductive Numeral : List Char → Int → Prop
  | mk {before sign text digits fraction after : List Char} {factor : Int} :
      (∀ c ∈ before, c ∈ whiteSpace) → Sign sign factor → Grouped text digits →
      NoFraction fraction → (∀ c ∈ after, c ∈ whiteSpace) →
      Numeral (before ++ (sign ++ text ++ fraction) ++ after)
        (factor * Nat.ofDigitChars 10 digits 0)

theorem isNumeralBlank_iff {c : Char} : Check.isNumeralBlank c = true ↔ c ∈ whiteSpace := by
  simp only [Check.isNumeralBlank, Text.isBlank, whiteSpace, List.mem_cons, ← Char.toNat_inj]
  simp
  omega

theorem isAsciiDigit_iff {c : Char} : Text.isAsciiDigit c = true ↔ c.isDigit = true := by
  simp [Text.isAsciiDigit, Char.isDigit, Char.le_def]

theorem natOfDigits_eq (digits : List Char) :
    Text.natOfDigits digits = Nat.ofDigitChars 10 digits 0 := rfl

variable {c d : Char} {text digits : List Char}

theorem Grouped.exists_cons (grouped : Grouped text digits) :
    ∃ c rest, text = c :: rest ∧ c.isDigit = true := by
  cases grouped with
  | last hdigit => exact ⟨_, _, rfl, hdigit⟩
  | next hdigit _ => exact ⟨_, _, rfl, hdigit⟩
  | underscore hdigit _ => exact ⟨_, _, rfl, hdigit⟩

theorem grouped_singleton_iff : Grouped [c] digits ↔ c.isDigit = true ∧ [c] = digits := by
  constructor
  · rintro (hdigit | ⟨hdigit, ⟨⟩⟩)
    exact ⟨hdigit, rfl⟩
  · rintro ⟨hdigit, rfl⟩
    exact .last hdigit

theorem grouped_underscore_iff : Grouped (c :: '_' :: text) digits ↔
    c.isDigit = true ∧ ∃ rest, Grouped text rest ∧ c :: rest = digits := by
  constructor
  · intro grouped
    cases grouped with
    | next hdigit grouped =>
        -- an underscore is no digit that a group could start with
        obtain ⟨_, _, ⟨⟩, hunderscore⟩ := grouped.exists_cons
        cases hunderscore
    | underscore hdigit grouped => exact ⟨hdigit, _, grouped, rfl⟩
  · rintro ⟨hdigit, rest, grouped, rfl⟩
    exact .underscore hdigit grouped

theorem grouped_next_iff (hnext : d ≠ '_') : Grouped (c :: d :: text) digits ↔
    c.isDigit = true ∧ ∃ rest, Grouped (d :: text) rest ∧ c :: rest = digits := by
  constructor
  · intro grouped
    cases grouped with
    | next hdigit grouped => exact ⟨hdigit, _, grouped, rfl⟩
    | underscore hdigit grouped => exact absurd rfl hnext
  · rintro ⟨hdigit, rest, grouped, rfl⟩
    exact .next hdigit grouped

theorem joinedDigits?_eq_some_iff :
    Text.joinedDigits? text = some digits ↔ Grouped text digits := by
  fun_induction Text.joinedDigits? text generalizing digits with
  | case1 =>
      refine iff_of_false (fun h => nomatch h) fun grouped => ?_
      obtain ⟨_, _, ⟨⟩, -⟩ := grouped.exists_cons
  | case2 c hdigit => simp [grouped_singleton_iff, isAsciiDigit_iff.mp hdigit]
  | case3 c hnot => simp [grouped_singleton_iff, ← isAsciiDigit_iff, hnot]
  | case4 c rest hdigit ih =>
      simp [grouped_underscore_iff, isAsciiDigit_iff.mp hdigit, Option.map_eq_some_iff, ih]
  | case5 c rest hnot => simp [grouped_underscore_iff, ← isAsciiDigit_iff, hnot]
  | case6 c d rest hnext hdigit ih =>
      simp [grouped_next_iff hnext, isAsciiDigit_iff.mp hdigit, Option.map_eq_some_iff, ih]
  | case7 c d rest hnext hnot => simp [grouped_next_iff hnext, ← isAsciiDigit_iff, hnot]

theorem Grouped.digit_or_underscore (grouped : Grouped text digits) :
    ∀ c ∈ text, c.isDigit = true ∨ c = '_' := by
  induction grouped with
  | last hdigit => simpa using .inl hdigit
  | next hdigit _ ih => simpa [hdigit] using ih
  | underscore hdigit _ ih => simpa [hdigit] using ih

theorem unsigned_of_isDigit {rest : List Char} (hdigit : c.isDigit = true) :
    Text.unsigned (c :: rest) = (false, c :: rest) := by
  unfold Text.unsigned
  split
  case h_1 heq =>
    obtain ⟨rfl, -⟩ := List.cons.inj heq
    cases hdigit
  case h_2 heq =>
    obtain ⟨rfl, -⟩ := List.cons.inj heq
    cases hdigit
  case h_3 => rfl

theorem sign_unsigned (text : List Char) : ∃ sign,
    Sign sign (Text.signed (Text.unsigned text).1 1) ∧ text = sign ++ (Text.unsigned text).2 := by
  unfold Text.unsigned
  split
  case h_1 => exact ⟨_, .minus, rfl⟩
  case h_2 => exact ⟨_, .plus, rfl⟩
  case h_3 => exact ⟨_, .none, rfl⟩

theorem signed_eq (negative : Bool) (size : Nat) :
    Text.signed negative size = Text.signed negative 1 * size := by
  cases negative <;> simp [Text.signed]

theorem intOfNumeral?_eq_some_iff {n : Int} : Text.intOfNumeral? text = some n ↔
    ∃ sign grouped digits factor, Sign sign factor ∧ Grouped grouped digits ∧
      text = sign ++ grouped ∧ n = factor * Nat.ofDigitChars 10 digits 0 := by
  constructor
  · intro hsome
    obtain ⟨digits, hdigits, rfl⟩ := Option.map_eq_some_iff.mp hsome
    obtain ⟨sign, hsign, htext⟩ := sign_unsigned text
    exact ⟨sign, _, digits, _, hsign, joinedDigits?_eq_some_iff.mp hdigits, htext,
      signed_eq _ _⟩
  · rintro ⟨sign, grouped, digits, factor, hsign, hgrouped, rfl, rfl⟩
    have hdigits := joinedDigits?_eq_some_iff.mpr hgrouped
    cases hsign with
    | none =>
        obtain ⟨c, rest, rfl, hdigit⟩ := hgrouped.exists_cons
        simp [Text.intOfNumeral?, unsigned_of_isDigit hdigit, hdigits, Text.signed, natOfDigits_eq]
    | plus => simp [Text.intOfNumeral?, Text.unsigned, hdigits, Text.signed, natOfDigits_eq]
    | minus => simp [Text.intOfNumeral?, Text.unsigned, hdigits, Text.signed, natOfDigits_eq]

/-- The characters of a numeral apart from the white space around it. -/
def IsNumeralChar (c : Char) : Prop := c.isDigit = true ∨ c ∈ ['+', '-', '_', '.']

theorem not_isNumeralBlank (hchar : IsNumeralChar c) : Check.isNumeralBlank c = false := by
  rw [Bool.eq_false_iff, Ne, isNumeralBlank_iff]
  rcases hchar with hdigit | hsymbol
  · simp only [Char.isDigit_iff_toNat, Char.reduceToNat] at hdigit
    simp only [whiteSpace, List.mem_cons, List.not_mem_nil, or_false, ← Char.toNat_inj,
      Char.reduceToNat]
    omega
  · simp only [List.mem_cons, List.not_mem_nil, or_false] at hsymbol
    rcases hsymbol with rfl | rfl | rfl | rfl <;> decide

/-- In front of the fraction, there is no point. -/
theorem isNumeralChar_of_mem_whole {sign grouped : List Char} {factor : Int}
    (hsign : Sign sign factor) (hgrouped : Grouped grouped digits) :
    ∀ c ∈ sign ++ grouped, IsNumeralChar c ∧ c ≠ '.' := by
  intro c hc
  rcases List.mem_append.mp hc with hc | hc
  · cases hsign <;> simp_all [IsNumeralChar]
  · rcases hgrouped.digit_or_underscore c hc with hdigit | rfl
    · refine ⟨.inl hdigit, ?_⟩
      rintro rfl
      cases hdigit
    · exact ⟨.inr (by decide), by decide⟩

theorem NoFraction.isNumeralChar {fraction : List Char} (hfraction : NoFraction fraction) :
    ∀ c ∈ fraction, IsNumeralChar c := by
  cases hfraction with
  | none => simp
  | point hzeros =>
      intro c hc
      rcases List.mem_cons.mp hc with rfl | hc
      · exact .inr (by decide)
      · exact .inl (hzeros c hc ▸ rfl)

theorem stripped_of_forall {drop : Char → Bool} (hkept : ∀ c ∈ text, drop c = false) :
    Text.Stripped drop text :=
  ⟨fun c hhead => hkept c (List.mem_of_mem_head? hhead),
    fun c hlast => hkept c (List.mem_of_mem_getLast? hlast)⟩

/-- The point divides a numeral. -/
theorem cut_at_point {whole fraction : List Char} (hwhole : ∀ c ∈ whole, c ≠ '.')
    (hfraction : NoFraction fraction) :
    (whole ++ fraction).takeWhile (· != '.') = whole ∧
      (whole ++ fraction).dropWhile (· != '.') = fraction := by
  have hall : ∀ c ∈ whole, (c != '.') = true := fun c hc => by simpa using hwhole c hc
  rw [List.takeWhile_append_of_pos hall, List.dropWhile_append_of_pos hall]
  cases hfraction <;> simp

theorem noFraction_dropWhile (text : List Char)
    (hzeros : ∀ c ∈ (text.dropWhile (· != '.')).drop 1, c = '0') :
    NoFraction (text.dropWhile (· != '.')) := by
  have hpoint := List.head?_dropWhile_not (· != '.') text
  cases hdrop : text.dropWhile (· != '.') with
  | nil => exact .none
  | cons point zeros =>
      rw [hdrop] at hpoint hzeros
      obtain rfl : point = '.' := by simpa using hpoint
      exact .point hzeros

theorem intOfText?_eq_some_iff {text : String} {n : Int} :
    Check.intOfText? text = some n ↔ Numeral text.toList n := by
  constructor
  · intro hsome
    unfold Check.intOfText? at hsome
    dsimp only at hsome
    split at hsome
    case isFalse => cases hsome
    case isTrue hzeros =>
      obtain ⟨before, after, hbefore, hafter, htext⟩ :=
        Text.exists_around_stripChars Check.isNumeralBlank text.toList
      generalize Text.stripChars Check.isNumeralBlank text.toList = core at *
      obtain ⟨sign, grouped, digits, factor, hsign, hgrouped, hwhole, rfl⟩ :=
        intOfNumeral?_eq_some_iff.mp hsome
      have hfraction := noFraction_dropWhile core (by simpa using hzeros)
      rw [htext, ← List.takeWhile_append_dropWhile (p := (· != '.')) (l := core), hwhole]
      exact .mk (fun c hc => isNumeralBlank_iff.mp (hbefore c hc)) hsign hgrouped hfraction
        (fun c hc => isNumeralBlank_iff.mp (hafter c hc))
  · intro hnumeral
    unfold Check.intOfText?
    generalize text.toList = chars at hnumeral
    obtain @⟨before, sign, grouped, digits, fraction, after, factor, hbefore, hsign, hgrouped,
      hfraction, hafter⟩ := hnumeral
    have hwhole := isNumeralChar_of_mem_whole hsign hgrouped
    have hchars : ∀ c ∈ sign ++ grouped ++ fraction, IsNumeralChar c := fun c hc =>
      (List.mem_append.mp hc).elim (fun hc => (hwhole c hc).1) (hfraction.isNumeralChar c)
    have hstripped := stripped_of_forall fun c hc => not_isNumeralBlank (hchars c hc)
    rw [Text.stripChars_around before after (fun c hc => isNumeralBlank_iff.mpr (hbefore c hc))
      (fun c hc => isNumeralBlank_iff.mpr (hafter c hc)) hstripped]
    obtain ⟨htake, hdrop⟩ := cut_at_point (fun c hc => (hwhole c hc).2) hfraction
    dsimp only
    rw [htake, hdrop, if_pos]
    · exact intOfNumeral?_eq_some_iff.mpr ⟨sign, grouped, digits, factor, hsign, hgrouped, rfl, rfl⟩
    · cases hfraction with
      | none => rfl
      | point hzeros => simpa using hzeros

end RestCatalog
