import RestCatalog.Proofs.Validation.Numeral
import RestCatalog.Proofs.Validation.Readings

/-!
# What document values are taken for

`Readings.standard` is the table of what the values of a document are read as.  Next to the
values of the kind itself, some are accepted for others: the numbers zero and one and a few words
for truth values; truth values, numbers without a fraction and numerals for integers.

The checks of the program go by this table (`FieldChecks.standard_obey`), which is one lemma for
each check.
-/

namespace RestCatalog

open Document

/-! ## The table -/

/-- A number, whole or not, that is an integer. -/
inductive WholeNumber : Value → Int → Prop
  | int (n : Int) : WholeNumber (.int n) n
  | float {x : Binary64} {n : Int} : x.toInt? = some n → WholeNumber (.float x) n

/-- The truth values: themselves, zero and one, and a few words in letters of any case. -/
inductive TruthOf : Value → Bool → Prop
  | bool (value : Bool) : TruthOf (.bool value) value
  | zero {value : Value} : WholeNumber value 0 → TruthOf value false
  | one {value : Value} : WholeNumber value 1 → TruthOf value true
  | no {text : String} : text.toLower ∈ ["0", "off", "f", "false", "n", "no"] →
      TruthOf (.text text) false
  | yes {text : String} : text.toLower ∈ ["1", "on", "t", "true", "y", "yes"] →
      TruthOf (.text text) true

/-- The integers: truth values as zero and one, numbers without a fraction, and numerals of a
limited length.  Floating-point numbers are only taken up to 64 bits. -/
inductive IntegerOf : Value → Int → Prop
  | no : IntegerOf (.bool false) 0
  | yes : IntegerOf (.bool true) 1
  | int (n : Int) : IntegerOf (.int n) n
  | float {x : Binary64} {n : Int} : x.toInt? = some n → n.natAbs < 0x8000000000000000 →
      IntegerOf (.float x) n
  | text {text : String} {n : Int} : text.length ≤ 4300 → Numeral text.toList n →
      IntegerOf (.text text) n

/-- What the values of a document are read as. -/
def Readings.standard : Readings Value where
  mode := fun value mode => value = .text mode.text
  truth := TruthOf
  integer := IntegerOf
  text := fun value text => value = .text text
  nothing := fun value => value = .null
  items := fun value items => value = .list items

theorem boolOfInt_eq_valid_iff {n : Int} {truth : Bool} :
    Check.boolOfInt n = .valid truth ↔ n = 0 ∧ truth = false ∨ n = 1 ∧ truth = true := by
  unfold Check.boolOfInt
  split
  case isTrue hzero => simp [hzero, eq_comm]
  case isFalse hzero =>
    split
    case isTrue hone => simp [hone, eq_comm]
    case isFalse hone => simp [hzero, hone, Checked.reject]

/-- No word means both. -/
theorem bool_text_eq_valid_iff {word : String} {truth : Bool} :
    Check.bool (.text word) = .valid truth ↔
      word.toLower ∈ Check.falseWords ∧ truth = false ∨
        word.toLower ∈ Check.trueWords ∧ truth = true := by
  have hapart : ∀ word ∈ Check.trueWords, word ∉ Check.falseWords := by decide
  unfold Check.bool
  simp only [List.contains_iff_mem]
  split
  case isTrue hno =>
    have hnot : word.toLower ∉ Check.trueWords := fun hyes => hapart _ hyes hno
    simp [hno, hnot, eq_comm]
  case isFalse hno =>
    split
    case isTrue hyes => simp [hno, hyes, eq_comm]
    case isFalse hyes => simp [hno, hyes, Checked.reject]

theorem bool_eq_valid_iff {value : Value} {truth : Bool} :
    Check.bool value = .valid truth ↔ TruthOf value truth := by
  constructor
  · intro hvalid
    cases value with
    | bool value =>
        obtain rfl := Checked.valid.inj hvalid
        exact .bool value
    | int n =>
        rcases boolOfInt_eq_valid_iff.mp hvalid with ⟨rfl, rfl⟩ | ⟨rfl, rfl⟩
        · exact .zero (.int 0)
        · exact .one (.int 1)
    | float x =>
        unfold Check.bool at hvalid
        dsimp only at hvalid
        split at hvalid
        case h_1 n hwhole =>
          rcases boolOfInt_eq_valid_iff.mp hvalid with ⟨rfl, rfl⟩ | ⟨rfl, rfl⟩
          · exact .zero (.float hwhole)
          · exact .one (.float hwhole)
        case h_2 => cases hvalid
    | text word =>
        rcases bool_text_eq_valid_iff.mp hvalid with ⟨hno, rfl⟩ | ⟨hyes, rfl⟩
        · exact .no hno
        · exact .yes hyes
    | _ => cases hvalid
  · intro htruth
    cases htruth with
    | bool => rfl
    | zero hnumber =>
        cases hnumber with
        | int => rfl
        | float hwhole => simp only [Check.bool, hwhole, Check.boolOfInt, if_true]
    | one hnumber =>
        cases hnumber with
        | int => rfl
        | float hwhole => simp [Check.bool, hwhole, Check.boolOfInt]
    | no hword => exact bool_text_eq_valid_iff.mpr (.inl ⟨hword, rfl⟩)
    | yes hword => exact bool_text_eq_valid_iff.mpr (.inr ⟨hword, rfl⟩)

/-- What is no finite number is no integer. -/
theorem isFinite_of_toInt? {x : Binary64} {n : Int} (hwhole : x.toInt? = some n) :
    x.isFinite = true := by
  cases x with
  | finite => rfl
  | infinite => cases hwhole
  | nan => cases hwhole

theorem int_float_eq_valid_iff {x : Binary64} {n : Int} :
    Check.int (.float x) = .valid n ↔
      x.toInt? = some n ∧ n.natAbs < 0x8000000000000000 := by
  constructor
  · intro hvalid
    unfold Check.int at hvalid
    dsimp only at hvalid
    split at hvalid
    case isTrue => cases hvalid
    case isFalse =>
      split at hvalid
      case h_1 => cases hvalid
      case h_2 m hwhole =>
        split at hvalid
        case isTrue hsize =>
          obtain rfl := Checked.valid.inj hvalid
          exact ⟨hwhole, hsize⟩
        case isFalse => cases hvalid
  · rintro ⟨hwhole, hsize⟩
    simp only [Check.int, isFinite_of_toInt? hwhole, hwhole]
    exact if_pos hsize

theorem int_text_eq_valid_iff {text : String} {n : Int} :
    Check.int (.text text) = .valid n ↔ text.length ≤ 4300 ∧ Numeral text.toList n := by
  rw [← intOfText?_eq_some_iff]
  unfold Check.int
  dsimp only
  split
  case isTrue hlong =>
    refine iff_of_false (fun h => nomatch h) ?_
    rintro ⟨hlength, -⟩
    exact Nat.not_le_of_lt hlong hlength
  case isFalse hlong =>
    have hlength : text.length ≤ 4300 := Nat.le_of_not_lt hlong
    cases Check.intOfText? text <;> simp [hlength, Checked.reject]

theorem int_eq_valid_iff {value : Value} {n : Int} :
    Check.int value = .valid n ↔ IntegerOf value n := by
  constructor
  · intro hvalid
    cases value with
    | bool value =>
        obtain rfl := Checked.valid.inj hvalid
        cases value with
        | false => exact .no
        | true => exact .yes
    | int n =>
        obtain rfl := Checked.valid.inj hvalid
        exact .int n
    | float x =>
        obtain ⟨hwhole, hsize⟩ := int_float_eq_valid_iff.mp hvalid
        exact .float hwhole hsize
    | text text =>
        obtain ⟨hlength, hnumeral⟩ := int_text_eq_valid_iff.mp hvalid
        exact .text hlength hnumeral
    | _ => cases hvalid
  · intro hinteger
    cases hinteger with
    | no => rfl
    | yes => rfl
    | int => rfl
    | float hwhole hsize => exact int_float_eq_valid_iff.mpr ⟨hwhole, hsize⟩
    | text hlength hnumeral => exact int_text_eq_valid_iff.mpr ⟨hlength, hnumeral⟩

theorem text_eq_valid_iff {value : Value} {text : String} :
    Check.text value = .valid text ↔ value = .text text := by
  cases value <;> simp [Check.text, Checked.reject]

theorem atLeast_eq_valid_iff {least : Nat} {value : Value} {n : { n : Nat // least ≤ n }} :
    Check.atLeast least value = .valid n ↔ IntegerOf value n.val := by
  rw [← int_eq_valid_iff]
  unfold Check.atLeast
  cases Check.int value with
  | rejected problems => exact iff_of_false (fun h => nomatch h) (fun h => nomatch h)
  | valid m =>
      have hleast : (least : Int) ≤ n.val := Int.ofNat_le.mpr n.property
      dsimp only
      split
      case isTrue hbound =>
        simp only [Checked.valid.injEq, Subtype.ext_iff]
        omega
      case isFalse hbound =>
        refine iff_of_false (fun h => nomatch h) fun hvalid => ?_
        exact hbound (Checked.valid.inj hvalid ▸ hleast)

theorem orNull_eq_valid_iff {value : Value} {n : Option Int} :
    Check.orNull Check.int value = .valid n ↔ Readings.standard.integerOrNull value n := by
  constructor
  · intro hvalid
    unfold Check.orNull at hvalid
    split at hvalid
    case h_1 =>
      obtain rfl := Checked.valid.inj hvalid
      exact .nothing rfl
    case h_2 =>
      obtain ⟨m, hint, rfl⟩ := Checked.map_eq_valid_iff.mp hvalid
      exact .integer (int_eq_valid_iff.mp hint)
  · rintro (hnothing | hinteger)
    case nothing =>
      rw [hnothing]
      rfl
    case integer m =>
      unfold Check.orNull
      split
      case h_1 => cases hinteger
      case h_2 => exact Checked.map_eq_valid_iff.mpr ⟨m, int_eq_valid_iff.mpr hinteger, rfl⟩

theorem list_text_eq_valid_iff {value : Value} {names : List String} :
    Check.list Check.text value = .valid names ↔ Readings.standard.texts value names := by
  have hforall (items : List Value) : List.Forall₂ (Checked.Gives Check.text) items names ↔
      List.Forall₂ Readings.standard.text items names :=
    ⟨List.Forall₂.imp fun _ _ => text_eq_valid_iff.mp,
      List.Forall₂.imp fun _ _ => text_eq_valid_iff.mpr⟩
  constructor
  · intro hvalid
    cases value with
    | list items => exact .list rfl ((hforall items).mp (Checked.each_eq_valid_iff.mp hvalid))
    | _ => cases hvalid
  · rintro ⟨rfl, hitems⟩
    exact Checked.each_eq_valid_iff.mpr ((hforall _).mpr hitems)

theorem ofText?_eq_some_iff {text : String} {mode : InitMode} :
    InitMode.ofText? text = some mode ↔ text = mode.text := by
  constructor
  · intro hfound
    simpa [eq_comm] using List.find?_some hfound
  · rintro rfl
    cases mode <;> rfl

theorem mode_eq_valid_iff {value : Value} {mode : InitMode} :
    InitMode.ofValue value = .valid mode ↔ value = .text mode.text := by
  unfold InitMode.ofValue Check.oneOf
  cases value with
  | text word =>
      dsimp only
      rw [Value.text.injEq, ← ofText?_eq_some_iff]
      cases InitMode.ofText? word <;> simp [Checked.reject]
  | _ => exact iff_of_false (fun h => nomatch h) (fun h => nomatch h)

theorem FieldChecks.standard_obey : FieldChecks.standard.Obey Readings.standard where
  mode := fun _ _ => mode_eq_valid_iff
  truth := fun _ _ => bool_eq_valid_iff
  atLeast := fun _ _ n => atLeast_eq_valid_iff.trans (and_iff_left n.property).symm
  integerOrNull := fun _ _ => orNull_eq_valid_iff
  texts := fun _ _ => list_text_eq_valid_iff

end RestCatalog
