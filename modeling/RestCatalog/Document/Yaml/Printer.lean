import RestCatalog.Document.Value
import RestCatalog.Document.Date
import RestCatalog.Text.Quoted

/-!
# Writing YAML

Values are written in block style, one entry on a line, with all texts in double
quotes.
-/

namespace RestCatalog.Document.Yaml

/-- The text of a value that takes no lines of its own; none for a list or mapping with
entries. -/
def inlineText? : Value → Option String
  | .null => some "null"
  | .bool value => some (if value then "true" else "false")
  | .int value => some (toString value)
  | .float value =>
    some (match value with
      | .nan => ".nan"
      | .infinite negative => if negative then "-.inf" else ".inf"
      | _ => value.text)
  | .text value => some (Text.quotedWith '"' value)
  | .date year month day => some (dateText year month day)
  | .moment text => some text
  | .foreign _ => some "null"
  | .list [] => some "[]"
  | .map [] => some "\x7b\x7d"
  | _ => none

/-- Puts `first` in front of the first line and blanks of the same width before the others. -/
def hang (first : String) : List String → List String
  | [] => []
  | line :: lines =>
    (first ++ line) :: lines.map (String.ofList (List.replicate first.length ' ') ++ ·)

mutual

/-- The lines of a value. -/
def lines : Value → List String
  | .list (item :: items) => itemLines (item :: items)
  | .map (entry :: entries) => entryLines (entry :: entries)
  | value => (inlineText? value).toList

def itemLines : List Value → List String
  | [] => []
  | item :: items => hang "- " (lines item) ++ itemLines items

def entryLines : List (Value × Value) → List String
  | [] => []
  | (key, value) :: entries =>
    let name := (inlineText? key).getD "null"
    (match inlineText? value with
      | some text => [name ++ ": " ++ text]
      | none => (name ++ ":") :: hang "  " (lines value)) ++ entryLines entries

end

/-- The text of a value. -/
def render (value : Value) : String := String.join ((lines value).map (· ++ "\n"))

end RestCatalog.Document.Yaml
