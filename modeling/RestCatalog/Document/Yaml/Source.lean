import RestCatalog.Document.Json

/-!
# The characters of a YAML text

A cursor walks over a text and counts lines, columns and characters.  Behind the
end every further character reads as the end mark.
-/

namespace RestCatalog.Document.Yaml

/-- Why a YAML text cannot be read: its notation is wrong, or a scalar that looks like a
number, a date or a character code has no value. -/
inductive Fault where
  | malformed
  | badScalar (message : String)
deriving DecidableEq, Repr

/-- What is read behind the end of a text. -/
def endMark : Char := '\x00'

def byteOrderMark : Char := '\ufeff'

def isBreak (c : Char) : Bool :=
  c = '\n' || c = '\r' || c = '\u0085' || c = '\u2028' || c = '\u2029'

/-- The end of a line or of the text. -/
def isLineEnd (c : Char) : Bool := isBreak c || c = endMark

/-- A blank, the end of a line or the end of the text. -/
def isGap (c : Char) : Bool := isLineEnd c || c = ' ' || c = '\t'

/-- A blank that is no tab, or the end of a line or of the text. -/
def isSpaceOrLineEnd (c : Char) : Bool := isLineEnd c || c = ' '

/-- The characters of names: letters, digits, `-` and `_`. -/
def isNameChar (c : Char) : Bool :=
  Text.isAsciiUpper c || Text.isAsciiLower c || Text.isAsciiDigit c || c = '-' || c = '_'

/-- The characters that a text may hold at all. -/
def isAllowed (c : Char) : Bool :=
  let n := c.toNat
  n = 9 || n = 10 || n = 13 || (0x20 ≤ n && n ≤ 0x7E) || n = 0x85 ||
    (0xA0 ≤ n && n ≤ 0xFFFD) || 0x10000 ≤ n

/-- A place in a text and what follows it. -/
structure Cursor where
  rest : List Char
  line : Nat := 0
  column : Nat := 0
  index : Nat := 0

namespace Cursor

/-- The character `k` places ahead. -/
def peekAt (cursor : Cursor) (k : Nat) : Char := cursor.rest.getD k endMark

def peek (cursor : Cursor) : Char := cursor.peekAt 0

def advance (cursor : Cursor) : Cursor :=
  match cursor.rest with
  | [] => cursor
  | c :: rest =>
    let endsLine := if c = '\r' then rest.headD endMark != '\n' else isBreak c
    if endsLine then
      { rest, line := cursor.line + 1, column := 0, index := cursor.index + 1 }
    else
      { rest, line := cursor.line, index := cursor.index + 1
        column := if c = byteOrderMark then cursor.column else cursor.column + 1 }

def advanceBy : Nat → Cursor → Cursor
  | 0, cursor => cursor
  | n + 1, cursor => advanceBy n cursor.advance

/-- The characters of a class from here on, and the place behind them. -/
def span (cursor : Cursor) (p : Char → Bool) : List Char × Cursor :=
  let taken := cursor.rest.takeWhile p
  (taken, cursor.advanceBy taken.length)

def skip (cursor : Cursor) (p : Char → Bool) : Cursor := (cursor.span p).2

/-- Reads the end of a line.  Most ends read as a line feed. -/
def lineBreak? (cursor : Cursor) : Option (Char × Cursor) :=
  let c := cursor.peek
  if c = '\r' && cursor.peekAt 1 = '\n' then some ('\n', cursor.advanceBy 2)
  else if c = '\r' || c = '\n' || c = '\u0085' then some ('\n', cursor.advance)
  else if c = '\u2028' || c = '\u2029' then some (c, cursor.advance)
  else none

def skipLineBreak (cursor : Cursor) : Cursor :=
  match cursor.lineBreak? with
  | some (_, next) => next
  | none => cursor

/-- Skips a comment up to the end of its line. -/
def skipComment (cursor : Cursor) : Cursor :=
  if cursor.peek = '#' then cursor.skip fun c => !isLineEnd c else cursor

/-- Whether three given characters stand here with a gap behind them. -/
def marks (cursor : Cursor) (c : Char) : Bool :=
  cursor.peek = c && cursor.peekAt 1 = c && cursor.peekAt 2 = c && isGap (cursor.peekAt 3)

/-- Whether a line that starts or ends a document begins here. -/
def atSeparator (cursor : Cursor) : Bool := cursor.marks '-' || cursor.marks '.'

/-- Skips blanks, a comment and the end of the line, and nothing else. -/
def restOfLine (cursor : Cursor) : Except Fault Cursor :=
  let cursor := (cursor.skip (· = ' ')).skipComment
  if isLineEnd cursor.peek then .ok cursor.skipLineBreak else .error .malformed

end Cursor

end RestCatalog.Document.Yaml
