import Mathlib.Data.List.DropRight
import RestCatalog.Text.Blank

/-!
# Stripping a text

Stripping takes the characters of a class away from both ends.  A text is `Stripped` if
there are none, and stripping is the way to the only stripped text that becomes the given
one when characters of the class are added at its ends: `stripped_stripChars` and
`exists_around_stripChars` say that it leads there, and `stripChars_around` that there is no
other one.  Stripping twice is stripping once.
-/

namespace RestCatalog.Text

/-- A text without characters of a class at its ends. -/
structure Stripped (drop : Char → Bool) (text : List Char) : Prop where
  head_kept : ∀ c, text.head? = some c → drop c = false
  last_kept : ∀ c, text.getLast? = some c → drop c = false

variable {drop : Char → Bool} {text core : List Char}

private theorem head_dropWhile (text : List Char) (c : Char)
    (hhead : (text.dropWhile drop).head? = some c) : drop c = false := by
  have hnot := List.head?_dropWhile_not drop text
  rwa [hhead] at hnot

theorem stripped_stripChars (drop : Char → Bool) (text : List Char) :
    Stripped drop (stripChars drop text) := by
  constructor
  case head_kept =>
    intro c hhead
    -- what is left after the front is the beginning of what is left at last
    obtain ⟨tail, htail⟩ : stripChars drop text <+: text.dropWhile drop :=
      List.rdropWhile_prefix drop (text.dropWhile drop)
    refine head_dropWhile text c ?_
    rw [← htail, List.head?_append, hhead, Option.some_or]
  case last_kept =>
    intro c hlast
    unfold stripChars at hlast
    rw [List.getLast?_reverse] at hlast
    exact head_dropWhile _ c hlast

/-- What was stripped off stood around what is left. -/
theorem exists_around_stripChars (drop : Char → Bool) (text : List Char) :
    ∃ before after, (∀ c ∈ before, drop c = true) ∧ (∀ c ∈ after, drop c = true) ∧
      text = before ++ stripChars drop text ++ after := by
  refine ⟨text.takeWhile drop, ((text.dropWhile drop).reverse.takeWhile drop).reverse, ?_, ?_, ?_⟩
  · exact fun c hc => List.mem_takeWhile_imp hc
  · intro c hc
    exact List.mem_takeWhile_imp (List.mem_reverse.mp hc)
  · unfold stripChars
    rw [List.append_assoc, ← List.reverse_append, List.takeWhile_append_dropWhile,
      List.reverse_reverse, List.takeWhile_append_dropWhile]

/-- Characters of the class around a stripped text are what stripping takes away. -/
theorem stripChars_around (before after : List Char) (hbefore : ∀ c ∈ before, drop c = true)
    (hafter : ∀ c ∈ after, drop c = true) (stripped : Stripped drop core) :
    stripChars drop (before ++ core ++ after) = core := by
  unfold stripChars
  rw [List.append_assoc, List.dropWhile_append_of_pos hbefore]
  cases core with
  | nil =>
      rw [List.nil_append, List.dropWhile_eq_nil_iff.mpr hafter]
      rfl
  | cons first rest =>
      have hfirst : ¬ drop first = true := by simp [stripped.head_kept first rfl]
      have hafter' : ∀ c ∈ after.reverse, drop c = true := fun c hc =>
        hafter c (List.mem_reverse.mp hc)
      have hlast : (first :: rest).reverse.dropWhile drop = (first :: rest).reverse := by
        cases hreverse : (first :: rest).reverse with
        | nil => rfl
        | cons last others =>
            have hlast : (first :: rest).getLast? = some last := by
              rw [← List.head?_reverse, hreverse, List.head?_cons]
            exact List.dropWhile_cons_of_neg (by simp [stripped.last_kept last hlast])
      rw [List.cons_append, List.dropWhile_cons_of_neg hfirst, ← List.cons_append,
        List.reverse_append, List.dropWhile_append_of_pos hafter', hlast, List.reverse_reverse]

theorem stripChars_of_stripped (stripped : Stripped drop text) : stripChars drop text = text := by
  simpa using stripChars_around [] [] (by simp) (by simp) stripped

@[simp]
theorem stripChars_stripChars (drop : Char → Bool) (text : List Char) :
    stripChars drop (stripChars drop text) = stripChars drop text :=
  stripChars_of_stripped (stripped_stripChars drop text)

@[simp]
theorem toList_trim (text : String) : (trim text).toList = stripChars isBlank text.toList := by
  unfold trim
  rw [String.toList_ofList]

end RestCatalog.Text
