import RestCatalog.Document.Value
import RestCatalog.Text.Numeral

/-!
# Reading JSON

A reader for JSON texts that keeps the order of object members.  A member that
is written twice keeps its first place and its last value.  `NaN`, `Infinity` and
`-Infinity` are accepted as numbers; a numeral with a fraction or an exponent is a
floating-point number and any other numeral an integer.
-/

namespace RestCatalog.Document.Json

open Text (isAsciiDigit natOfDigits signed unsigned)

/-- Blanks between tokens. -/
def isSpace (c : Char) : Bool := c = ' ' || c = '\t' || c = '\n' || c = '\r'

def skipSpace (input : List Char) : List Char := input.dropWhile isSpace

/-- The value of a hexadecimal digit. -/
def hexValue? (c : Char) : Option Nat :=
  if '0' ≤ c && c ≤ '9' then some (c.toNat - 48)
  else if 'a' ≤ c && c ≤ 'f' then some (c.toNat - 87)
  else if 'A' ≤ c && c ≤ 'F' then some (c.toNat - 55)
  else none

/-- The number that four hexadecimal digits at the start of the input write. -/
def fourHex? : List Char → Option (Nat × List Char)
  | a :: b :: c :: d :: rest => do
    let a ← hexValue? a
    let b ← hexValue? b
    let c ← hexValue? c
    let d ← hexValue? d
    some (((a * 16 + b) * 16 + c) * 16 + d, rest)
  | _ => none

/-- The character of a code point; a lone surrogate gives the replacement character. -/
def charOf (n : Nat) : Char :=
  if 0xD800 ≤ n && n ≤ 0xDFFF then '\ufffd' else Char.ofNat n

/-- The character that `\u` and what follows it write; two surrogates make one character. -/
def unicodeEscape? (input : List Char) : Option (Char × List Char) := do
  let (high, rest) ← fourHex? input
  if 0xD800 ≤ high && high ≤ 0xDBFF then
    match rest with
    | '\\' :: 'u' :: more =>
      match fourHex? more with
      | some (low, after) =>
        if 0xDC00 ≤ low && low ≤ 0xDFFF then
          return (charOf (0x10000 + (high - 0xD800) * 0x400 + (low - 0xDC00)), after)
        else return (charOf high, rest)
      | none => return (charOf high, rest)
    | _ => return (charOf high, rest)
  else return (charOf high, rest)

/-- The character of an escape with one letter. -/
def simpleEscape? : Char → Option Char
  | '"' => some '"'
  | '\\' => some '\\'
  | '/' => some '/'
  | 'b' => some '\x08'
  | 'f' => some '\x0c'
  | 'n' => some '\n'
  | 'r' => some '\r'
  | 't' => some '\t'
  | _ => none

/-- The rest of a string after its opening quote; `done` holds what is read, last first. -/
def stringBody? : Nat → List Char → List Char → Option (String × List Char)
  | 0, _, _ => none
  | _ + 1, _, [] => none
  | fuel + 1, done, c :: rest =>
    if c = '"' then some (String.ofList done.reverse, rest)
    else if c = '\\' then
      match rest with
      | 'u' :: more => do
        let (c, after) ← unicodeEscape? more
        stringBody? fuel (c :: done) after
      | escape :: more => do
        let c ← simpleEscape? escape
        stringBody? fuel (c :: done) more
      | [] => none
    else if c.toNat < 32 then none
    else stringBody? fuel (c :: done) rest

/-- The fraction part of a numeral, if one follows. -/
def fraction (input : List Char) : List Char × List Char :=
  match input with
  | '.' :: rest =>
    let digits := rest.takeWhile isAsciiDigit
    if digits.isEmpty then ([], input) else (digits, rest.dropWhile isAsciiDigit)
  | _ => ([], input)

/-- The exponent part of a numeral, if one follows. -/
def exponent? (input : List Char) : Option Int × List Char :=
  match input with
  | c :: rest =>
    if c = 'e' || c = 'E' then
      let (negative, digits) := unsigned rest
      let figures := digits.takeWhile isAsciiDigit
      if figures.isEmpty then (none, input)
      else
        (some (signed negative (natOfDigits figures)), digits.dropWhile isAsciiDigit)
    else (none, input)
  | [] => (none, input)

/-- A numeral at the start of the input. -/
def number? (input : List Char) : Option (Value × List Char) :=
  let (negative, figures) :=
    match input with
    | '-' :: rest => (true, rest)
    | _ => (false, input)
  let whole := match figures with
    | '0' :: _ => ['0']
    | _ => figures.takeWhile isAsciiDigit
  if whole.isEmpty then none
  else
    let (decimals, rest) := fraction (figures.drop whole.length)
    let (power, rest) := exponent? rest
    if decimals.isEmpty && power.isNone then
      if 4300 < whole.length then none
      else some (.int (signed negative (natOfDigits whole)), rest)
    else
      some (.float (Binary64.ofDecimal negative (natOfDigits (whole ++ decimals))
        (power.getD 0 - decimals.length)), rest)

/-- What is left of the input after a given start. -/
def after? (start : List Char) (input : List Char) : Option (List Char) :=
  if start.isPrefixOf input then some (input.drop start.length) else none

/-- A scalar at the start of the input. -/
def scalar? (input : List Char) : Option (Value × List Char) :=
  match input with
  | '"' :: rest => (stringBody? (rest.length + 1) [] rest).map fun (s, rest) => (.text s, rest)
  | _ =>
    let word (text : String) (value : Value) :=
      (after? text.toList input).map fun rest => (value, rest)
    word "null" .null <|> word "true" (.bool true) <|> word "false" (.bool false) <|>
      word "NaN" (.float .nan) <|> word "Infinity" (.float (.infinite false)) <|>
      word "-Infinity" (.float (.infinite true)) <|> number? input

mutual

/-- A value at the start of the input. -/
def value? : Nat → List Char → Option (Value × List Char)
  | 0, _ => none
  | fuel + 1, input =>
    match input with
    | '[' :: rest =>
      match skipSpace rest with
      | ']' :: after => some (.list [], after)
      | start => items? fuel [] start
    | '\x7b' :: rest =>
      match skipSpace rest with
      | '\x7d' :: after => some (.map [], after)
      | start => members? fuel [] start
    | _ => scalar? input

/-- The rest of a list from an item on; `done` holds the items read, last first. -/
def items? : Nat → List Value → List Char → Option (Value × List Char)
  | 0, _, _ => none
  | fuel + 1, done, input =>
    match value? fuel input with
    | none => none
    | some (item, rest) =>
      match skipSpace rest with
      | ',' :: more => items? fuel (item :: done) (skipSpace more)
      | ']' :: after => some (.list (item :: done).reverse, after)
      | _ => none

/-- The rest of an object from a member on; `done` holds the members read. -/
def members? : Nat → List (Value × Value) → List Char → Option (Value × List Char)
  | 0, _, _ => none
  | fuel + 1, done, input =>
    match input with
    | '"' :: rest =>
      match stringBody? (rest.length + 1) [] rest with
      | none => none
      | some (key, rest) =>
        match skipSpace rest with
        | ':' :: more =>
          match value? fuel (skipSpace more) with
          | none => none
          | some (value, rest) =>
            let done := Value.insertEntry (.text key) value done
            match skipSpace rest with
            | ',' :: more => members? fuel done (skipSpace more)
            | '\x7d' :: after => some (.map done, after)
            | _ => none
        | _ => none
    | _ => none

end

/-- The value that a JSON text writes; none if the text is no JSON. -/
def parse? (text : String) : Option Value :=
  let input := text.toList
  match value? (2 * input.length + 2) (skipSpace input) with
  | some (value, rest) => if (skipSpace rest).isEmpty then some value else none
  | none => none

end RestCatalog.Document.Json
