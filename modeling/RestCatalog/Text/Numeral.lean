import RestCatalog.Text.Case

/-!
# Decimal numerals

Signs, runs of digits and digits that are grouped by single underscores.
-/

namespace RestCatalog.Text

/-- The number that decimal digits write. -/
def natOfDigits (digits : List Char) : Nat :=
  digits.foldl (fun n c => 10 * n + (c.toNat - 48)) 0

/-- A text without a sign in front, and whether the sign is a minus. -/
def unsigned (text : List Char) : Bool × List Char :=
  match text with
  | '-' :: rest => (true, rest)
  | '+' :: rest => (false, rest)
  | _ => (false, text)

/-- An integer by its sign and size. -/
def signed (negative : Bool) (size : Nat) : Int := if negative then -(size : Int) else size

/-- The digits of a numeral in which single underscores may stand between digits. -/
def joinedDigits? : List Char → Option (List Char)
  | [] => none
  | [c] => if isAsciiDigit c then some [c] else none
  | c :: '_' :: rest => if isAsciiDigit c then (joinedDigits? rest).map (c :: ·) else none
  | c :: d :: rest => if isAsciiDigit c then (joinedDigits? (d :: rest)).map (c :: ·) else none

/-- The integer that a sign and grouped digits write. -/
def intOfNumeral? (text : List Char) : Option Int :=
  let (negative, digits) := unsigned text
  (joinedDigits? digits).map fun digits => signed negative (natOfDigits digits)

end RestCatalog.Text
