import RestCatalog.Document.Yaml.Source

/-!
# Block scalars

A block scalar is written on indented lines behind `|` or `>`.  Its header may fix the
indentation and what becomes of the line ends at its end; behind `>` line ends
between lines of text are folded.
-/

namespace RestCatalog.Document.Yaml

/-- What becomes of the line ends at the end of a block scalar. -/
inductive Chomping where
  | clip
  | strip
  | keep
deriving DecidableEq

def chomping? (c : Char) : Option Chomping :=
  if c = '+' then some .keep else if c = '-' then some .strip else none

/-- A digit from 1 to 9, or an error for 0; none for other characters. -/
def increment? (c : Char) : Except Fault (Option Nat) :=
  if !c.isDigit then .ok none
  else if c = '0' then .error .malformed
  else .ok (some (c.toNat - 48))

/-- The two indicators behind `|` or `>`, in either order. -/
def blockHeader (cursor : Cursor) : Except Fault (Chomping × Option Nat × Cursor) := do
  let (chomping, increment, cursor) ← match chomping? cursor.peek with
    | some chomping =>
      let cursor := cursor.advance
      match ← increment? cursor.peek with
      | some n => pure (chomping, some n, cursor.advance)
      | none => pure (chomping, none, cursor)
    | none =>
      match ← increment? cursor.peek with
      | some n =>
        let cursor := cursor.advance
        match chomping? cursor.peek with
        | some chomping => pure (chomping, some n, cursor.advance)
        | none => pure (.clip, some n, cursor)
      | none => pure (.clip, none, cursor)
  if isSpaceOrLineEnd cursor.peek then return (chomping, increment, cursor)
  else throw .malformed

/-- Skips blanks and line ends before the first line of text: the line ends, and the deepest
column that was met. -/
def blockIndentation : Nat → List Char → Nat → Cursor → List Char × Nat × Cursor
  | 0, done, deepest, cursor => (done.reverse, deepest, cursor)
  | fuel + 1, done, deepest, cursor =>
    if cursor.peek = ' ' then
      let cursor := cursor.advance
      blockIndentation fuel done (max deepest cursor.column) cursor
    else
      match cursor.lineBreak? with
      | some (c, next) => blockIndentation fuel (c :: done) deepest next
      | none => (done.reverse, deepest, cursor)

/-- Skips the indentation of a line, at most up to a column. -/
def skipIndent (indent : Nat) (cursor : Cursor) : Cursor :=
  let blanks := (cursor.rest.takeWhile (· = ' ')).length
  cursor.advanceBy (min blanks (indent - cursor.column))

/-- Skips empty lines and the indentation of the next line with text. -/
def blockBreaks (indent : Nat) : Nat → List Char → Cursor → List Char × Cursor
  | 0, done, cursor => (done.reverse, cursor)
  | fuel + 1, done, cursor =>
    let cursor := skipIndent indent cursor
    match cursor.lineBreak? with
    | some (c, next) => blockBreaks indent fuel (c :: done) next
    | none => (done.reverse, cursor)

/-- Reads the lines of a block scalar.  `done` holds what is read, `breaks` the line ends before
this line and `lineBreak` the one before those.  At the end the last two are answered too. -/
def blockLines (folded : Bool) (indent : Nat) :
    Nat → (done breaks lineBreak : List Char) → Cursor →
      List Char × List Char × List Char × Cursor
  | 0, done, breaks, lineBreak, cursor => (done, breaks, lineBreak, cursor)
  | fuel + 1, done, breaks, lineBreak, cursor =>
    if cursor.column = indent && cursor.peek != endMark then
      let startsBlank := cursor.peek = ' ' || cursor.peek = '\t'
      let (line, cursor) := cursor.span fun c => !isLineEnd c
      let done := done ++ breaks ++ line
      let lineBreak := (cursor.lineBreak?.map (·.1)).toList
      let cursor := cursor.skipLineBreak
      let (breaks, cursor) := blockBreaks indent (cursor.rest.length + 1) [] cursor
      if cursor.column = indent && cursor.peek != endMark then
        let folds := folded && lineBreak = ['\n'] && !startsBlank &&
          !(cursor.peek = ' ' || cursor.peek = '\t')
        let joint := if !folds then lineBreak else if breaks.isEmpty then [' '] else []
        blockLines folded indent fuel (done ++ joint) breaks lineBreak cursor
      else (done, breaks, lineBreak, cursor)
    else (done, breaks, lineBreak, cursor)

/-- A block scalar from its `|` or `>` on, inside a collection at the column `indent`. -/
def blockScalar (indent : Int) (cursor : Cursor) : Except Fault (String × Cursor) := do
  let folded := cursor.peek = '>'
  let (chomping, increment, cursor) ← blockHeader cursor.advance
  let cursor ← cursor.restOfLine
  let least := max 1 (indent + 1).toNat
  let fuel := cursor.rest.length + 1
  let (breaks, column, cursor) := match increment with
    | none =>
      let (breaks, deepest, cursor) := blockIndentation fuel [] 0 cursor
      (breaks, max least deepest, cursor)
    | some n =>
      let column := least + n - 1
      let (breaks, cursor) := blockBreaks column fuel [] cursor
      (breaks, column, cursor)
  let (text, breaks, lineBreak, cursor) := blockLines folded column fuel [] breaks [] cursor
  let tail := match chomping with
    | .strip => []
    | .clip => lineBreak
    | .keep => lineBreak ++ breaks
  return (String.ofList (text ++ tail), cursor)

end RestCatalog.Document.Yaml
