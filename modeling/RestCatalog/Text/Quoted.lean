import RestCatalog.Text.PrintableTable

/-!
# Quoted texts

A text in quotes, as messages show it.  Single quotes are used unless the text
holds a single quote and no double quote.  The backslash, the quote in use,
line ends and tabs are escaped by a letter, other characters without a visible
form by their code in two, four or eight hexadecimal digits.
-/

namespace RestCatalog.Text

def hexDigit (n : Nat) : Char :=
  if n < 10 then Char.ofNat (48 + n) else Char.ofNat (87 + n)

/-- The lowest `width` hexadecimal digits of a number. -/
def hexDigits : Nat → Nat → List Char
  | 0, _ => []
  | width + 1, n => hexDigits width (n / 16) ++ [hexDigit (n % 16)]

/-- Whether a character has a visible form; of the separators only the plain blank counts. -/
def isPrintable (c : Char) : Bool :=
  let n := c.toNat
  if n < 127 then 32 ≤ n else printableRuns.any fun run => run.1 ≤ n && n ≤ run.2

/-- One character of a text in quotes. -/
def quoteChar (quote c : Char) : List Char :=
  if c = quote || c = '\\' then ['\\', c]
  else if c = '\n' then ['\\', 'n']
  else if c = '\r' then ['\\', 'r']
  else if c = '\t' then ['\\', 't']
  else if isPrintable c then [c]
  else if c.toNat < 0x100 then '\\' :: 'x' :: hexDigits 2 c.toNat
  else if c.toNat < 0x10000 then '\\' :: 'u' :: hexDigits 4 c.toNat
  else '\\' :: 'U' :: hexDigits 8 c.toNat

/-- The quote that a text is shown in. -/
def quoteFor (text : List Char) : Char :=
  if text.contains '\x27' && !text.contains '"' then '"' else '\x27'

/-- A text in given quotes. -/
def quotedWith (quote : Char) (text : String) : String :=
  String.ofList (quote :: text.toList.flatMap (quoteChar quote) ++ [quote])

/-- A text in quotes. -/
def quoted (text : String) : String := quotedWith (quoteFor text.toList) text

end RestCatalog.Text
