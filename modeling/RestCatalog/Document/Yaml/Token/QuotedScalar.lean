import RestCatalog.Document.Yaml.Source

/-!
# Scalars in quotes

In single quotes a doubled quote stands for one; in double quotes a backslash starts
an escape.  Line ends are folded as in plain scalars.
-/

namespace RestCatalog.Document.Yaml

/-- The character of an escape with one letter. -/
def escapedChar? (c : Char) : Option Char :=
  match c with
  | '0' => some '\x00'
  | 'a' => some '\x07'
  | 'b' => some '\x08'
  | 't' => some '\t'
  | '\t' => some '\t'
  | 'n' => some '\n'
  | 'v' => some '\x0b'
  | 'f' => some '\x0c'
  | 'r' => some '\r'
  | 'e' => some '\x1b'
  | ' ' => some ' '
  | '"' => some '"'
  | '\\' => some '\\'
  | '/' => some '/'
  | 'N' => some '\u0085'
  | '_' => some '\u00a0'
  | 'L' => some '\u2028'
  | 'P' => some '\u2029'
  | _ => none

/-- How many digits the escape of a character code has. -/
def codeLength? (c : Char) : Option Nat :=
  if c = 'x' then some 2 else if c = 'u' then some 4 else if c = 'U' then some 8 else none

/-- The number that hexadecimal digits write. -/
def hexNumber? (digits : List Char) : Option Nat :=
  digits.foldlM (fun n c => (Json.hexValue? c).map (16 * n + ·)) 0

/-- The character with a code. -/
def charOfCode (code : Nat) : Except Fault Char :=
  if 0x10FFFF < code then .error (.badScalar "chr() arg not in range(0x110000)")
  else .ok (Json.charOf code)

/-- The line ends and leading blanks of empty lines. -/
def quotedBreaks : Nat → List Char → Cursor → Except Fault (List Char × Cursor)
  | 0, _, _ => .error .malformed
  | fuel + 1, done, cursor =>
    if cursor.atSeparator then .error .malformed
    else
      let cursor := cursor.skip fun c => c = ' ' || c = '\t'
      match cursor.lineBreak? with
      | some (c, next) => quotedBreaks fuel (c :: done) next
      | none => .ok (done.reverse, cursor)

/-- The blanks and line ends at this place, as they read. -/
def quotedSpaces (cursor : Cursor) : Except Fault (List Char × Cursor) :=
  let (blanks, cursor) := cursor.span fun c => c = ' ' || c = '\t'
  if cursor.peek = endMark then .error .malformed
  else
    match cursor.lineBreak? with
    | none => .ok (blanks, cursor)
    | some (c, next) => do
      let (breaks, cursor) ← quotedBreaks (next.rest.length + 1) [] next
      let first := if c != '\n' then [c] else if breaks.isEmpty then [' '] else []
      return (first ++ breaks, cursor)

/-- The escape behind a backslash, as it reads. -/
def escape (cursor : Cursor) : Except Fault (List Char × Cursor) :=
  match escapedChar? cursor.peek with
  | some c => .ok ([c], cursor.advance)
  | none =>
    match codeLength? cursor.peek with
    | some length =>
      let cursor := cursor.advance
      let digits := cursor.rest.take length
      match hexNumber? digits with
      | some code =>
        if digits.length < length then .error .malformed
        else (charOfCode code).map fun c => ([c], cursor.advanceBy length)
      | none => .error .malformed
    | none =>
      match cursor.lineBreak? with
      | some (_, next) => quotedBreaks (next.rest.length + 1) [] next
      | none => .error .malformed

/-- The rest of a scalar in quotes; `done` holds what is read. -/
def quotedRest (quote : Char) :
    Nat → List Char → Cursor → Except Fault (List Char × Cursor)
  | 0, _, _ => .error .malformed
  | fuel + 1, done, cursor =>
    let (run, cursor) := cursor.span fun c =>
      !(isGap c || c = '\x27' || c = '"' || c = '\\')
    let done := done ++ run
    let c := cursor.peek
    if c = quote then
      if quote = '\x27' && cursor.peekAt 1 = quote then
        quotedRest quote fuel (done ++ [quote]) (cursor.advanceBy 2)
      else .ok (done, cursor.advance)
    else if c = '\\' && quote = '"' then do
      let (text, cursor) ← escape cursor.advance
      quotedRest quote fuel (done ++ text) cursor
    else if c = '\x27' || c = '"' || c = '\\' then
      quotedRest quote fuel (done ++ [c]) cursor.advance
    else do
      let (text, cursor) ← quotedSpaces cursor
      quotedRest quote fuel (done ++ text) cursor

/-- A scalar in quotes, from its opening quote on. -/
def quotedScalar (cursor : Cursor) : Except Fault (String × Cursor) := do
  let (text, rest) ← quotedRest cursor.peek (cursor.rest.length + 1) [] cursor.advance
  return (String.ofList text, rest)

end RestCatalog.Document.Yaml
