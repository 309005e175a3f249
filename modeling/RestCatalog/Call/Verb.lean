import RestCatalog.Text.Quoted

/-!
# Verbs

The eight verbs of HTTP.  A resource handles five of them; the others are
refused when a resource is set up.
-/

namespace RestCatalog

inductive Verb where
  | get
  | post
  | put
  | patch
  | delete
  | options
  | head
  | trace
deriving DecidableEq, Repr, Inhabited

namespace Verb

/-- All verbs. -/
def all : List Verb := [get, post, put, patch, delete, options, head, trace]

/-- The text of a verb in requests. -/
def text : Verb → String
  | get => "GET"
  | post => "POST"
  | put => "PUT"
  | patch => "PATCH"
  | delete => "DELETE"
  | options => "OPTIONS"
  | head => "HEAD"
  | trace => "TRACE"

/-- The verb with a text, in capitals only. -/
def ofText? (text : String) : Option Verb := all.find? fun verb => verb.text = text

@[simp]
theorem ofText?_text (verb : Verb) : ofText? verb.text = some verb := by
  cases verb <;> decide +kernel

/-- A text is read as a verb only if the verb is written like this. -/
theorem ofText?_eq_some_iff {text : String} {verb : Verb} :
    ofText? text = some verb ↔ verb.text = text := by
  constructor
  · intro hread
    simpa using List.find?_some hread
  · rintro rfl
    exact ofText?_text verb

theorem isNone_ofText? (text : String) :
    (ofText? text).isNone = decide (text ∉ all.map Verb.text) := by
  rw [Bool.eq_iff_iff]
  simp [ofText?]

/-- Verbs are written in capitals. -/
theorem isUpper_of_mem_text {verb : Verb} {c : Char} (hc : c ∈ verb.text.toList) :
    c.isUpper = true := by
  have hupper : verb.text.toList.all Char.isUpper = true := by
    cases verb <;> decide +kernel
  exact List.all_eq_true.mp hupper c hc

/-- Other characters do not occur in them. -/
theorem ne_of_mem_text {verb : Verb} {c other : Char} (hc : c ∈ verb.text.toList)
    (hother : other.isUpper = false) : c ≠ other := by
  rintro rfl
  rw [isUpper_of_mem_text hc] at hother
  cases hother

/-- The verbs that resources handle, in the order of their inventory. -/
def handled : List Verb := [post, get, put, patch, delete]

/-- The place of a verb in the inventory. -/
def handledIndex? (verb : Verb) : Option Nat := handled.findIdx? (· = verb)

end Verb

end RestCatalog
