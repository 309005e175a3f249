import RestCatalog.Text.Words

/-!
# Table names for words

Words of a path are matched with table names by their normal forms: letters and
digits only, in lower case, and without a plural ending.  One word may name a
table on its own, and two neighbouring words may name it together.
-/

namespace RestCatalog

open Text

/-- How a table name was met: by one whole word, or by two words joined. -/
inductive Closeness where
  | whole
  | joined
deriving DecidableEq, Repr

/-- The similarity that a match is reported with. -/
def Closeness.text : Closeness → String
  | .whole => "1.0"
  | .joined => "0.9"

/-- The evidence that a word of a path names a table. -/
structure TableMatch where
  indicator : String
  table : String
  closeness : Closeness
deriving DecidableEq, Repr

/-- Folds a plural ending: `ies` of a longer name becomes `y`, and a last single `s` is
dropped. -/
def foldPlural (name : List Char) : List Char :=
  if 3 < name.length && ['i', 'e', 's'].isSuffixOf name then name.take (name.length - 3) ++ ['y']
  else if 1 < name.length && ['s'].isSuffixOf name && !(['s', 's'].isSuffixOf name) then
    name.take (name.length - 1)
  else name

/-- The normal form under which words and tables are compared. -/
def normalName (text : String) : String :=
  String.ofList
    (foldPlural ((lower text).toList.filter fun c => isAsciiLower c || isAsciiDigit c))

/-- The tables whose normal form is that of a text, unless it is empty. -/
def tablesNamed (tables : List String) (text : String) : List String :=
  tables.filter fun table => normalName table != "" && normalName table = normalName text

/-- The joined texts of neighbouring words. -/
def neighbourJoins : List String → List String
  | a :: b :: rest => (a ++ b) :: neighbourJoins (b :: rest)
  | _ => []

/-- All matches of the words with the tables: first the single words, then the joined ones. -/
def matchTables (words tables : List String) : List TableMatch :=
  let tables := tables.eraseDups
  (words.flatMap fun word =>
      (tablesNamed tables word).map fun table => ⟨word, table, .whole⟩) ++
    (neighbourJoins words).flatMap fun word =>
      (tablesNamed tables word).map fun table => ⟨word, table, .joined⟩

end RestCatalog
