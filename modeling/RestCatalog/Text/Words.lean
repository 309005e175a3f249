import RestCatalog.Text.Blank
import RestCatalog.Text.Case

/-!
# Words inside compound names

A compound name such as `shopItems`, `SHOP_items` or `shop-items` is cut into
words.  Cuts are made at separators, which are dropped, and between a small
letter or digit and a capital, and before the last capital of a run of capitals
that a small letter follows.  Only ASCII letters and digits make cuts.
-/

namespace RestCatalog.Text

/-- The pieces of a text between the characters of a class; one more than there are of them. -/
def splitOn (cut : Char → Bool) : List Char → List (List Char)
  | [] => [[]]
  | c :: rest =>
    if cut c then [] :: splitOn cut rest
    else
      match splitOn cut rest with
      | [] => [[c]]
      | piece :: pieces => (c :: piece) :: pieces

/-- Whether a text occurs within another one. -/
def occursIn (part : List Char) : List Char → Bool
  | [] => part.isEmpty
  | c :: rest => part.isPrefixOf (c :: rest) || occursIn part rest

/-- The characters that separate words: `_`, `-`, `.` and white space. -/
def isWordSeparator (c : Char) : Bool :=
  c = '_' || c = '-' || c = '.' || isBlank c

/-- Whether a word ends between `a` and `b`, where `rest` follows `b`. -/
def endsWord (a b : Char) (rest : List Char) : Bool :=
  isAsciiUpper b &&
    (isAsciiLower a || isAsciiDigit a || (isAsciiUpper a && (rest.head?.any isAsciiLower)))

/-- Cuts a text without separators at its changes of case. -/
def splitHumps : List Char → List (List Char)
  | [] => []
  | [a] => [[a]]
  | a :: b :: rest =>
    match splitHumps (b :: rest) with
    | [] => [[a]]
    | word :: words => if endsWord a b rest then [a] :: word :: words else (a :: word) :: words

/-- The words of a text as they are written. -/
def rawWords (text : String) : List (List Char) :=
  (splitOn isWordSeparator text.toList).flatMap splitHumps

/-- The lower-case words of a compound name; none for a single word. -/
def splitWords (text : String) : List String :=
  match rawWords text with
  | first :: second :: more =>
    (first :: second :: more).map fun word => String.ofList (lowerFrom [] word)
  | _ => []

end RestCatalog.Text
