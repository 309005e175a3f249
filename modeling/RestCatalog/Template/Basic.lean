import RestCatalog.Call.Verb
import RestCatalog.OrderedMap
import RestCatalog.Text.Words

/-!
# Call templates

A template is a combination of verbs that are tried together on a resource,
written as the verbs joined by `-`.  Its size counts the calls that it takes, its
visits how often it was selected.
-/

namespace RestCatalog

/-- A combination of verbs under its text. -/
structure Template where
  text : String
  /-- Whether it needs no other resource. -/
  independent : Bool
  size : Nat
  visits : Nat := 0
  /-- Whether the size counts the calls that create the resource. -/
  sizeAssured : Bool := false
deriving DecidableEq, Repr

/-- The templates of a resource, by their texts. -/
abbrev Templates := OrderedMap String Template

namespace Template

/-- The text of a combination of verbs. -/
def format (verbs : List Verb) : String := "-".intercalate (verbs.map Verb.text)

/-- The parts of a template text. -/
def parts (text : String) : List String :=
  (Text.splitOn (· = '-') text.toList).map String.ofList

/-- The verbs of a template text, or the first part that is no verb. -/
def parse (text : String) : Except String (List Verb) :=
  (parts text).mapM fun part =>
    match Verb.ofText? part with
    | some verb => .ok verb
    | none => .error part

/-- Whether a template text has more than one verb. -/
def hasSeveral (text : String) : Bool := text.toList.contains '-'

/-- The verbs of a template; none for a text that is no template. -/
def verbs (template : Template) : List Verb :=
  match parse template.text with
  | .ok verbs => verbs
  | .error _ => []

/-- Whether a template has a verb. -/
def contains (template : Template) (verb : Verb) : Bool := template.verbs.contains verb

/-- A template that was not tried yet. -/
def fresh (verbs : List Verb) (independent : Bool) : Template :=
  { text := format verbs, independent, size := verbs.length }

end Template

end RestCatalog
