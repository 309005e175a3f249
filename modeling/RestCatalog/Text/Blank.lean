/-!
# White space and trimming

`isBlank` is the class of characters that separate words in any script, with the
four information separators `U+001C` to `U+001F`.  Zero-width characters are
not blank.
-/

namespace RestCatalog.Text

/-- White space of any script and the information separators. -/
def isBlank (c : Char) : Bool :=
  let n := c.toNat
  (9 ≤ n && n ≤ 13) || (28 ≤ n && n ≤ 32) || n == 0x85 || n == 0xA0 || n == 0x1680 ||
    (0x2000 ≤ n && n ≤ 0x200A) || n == 0x2028 || n == 0x2029 || n == 0x202F || n == 0x205F ||
    n == 0x3000

/-- A text without the characters of a class at either end. -/
def stripChars (drop : Char → Bool) (text : List Char) : List Char :=
  ((text.dropWhile drop).reverse.dropWhile drop).reverse

/-- A text without white space at either end. -/
def trim (text : String) : String :=
  String.ofList (stripChars isBlank text.toList)

end RestCatalog.Text
