import RestCatalog.Document.Yaml.Source

/-!
# Plain scalars

A plain scalar is written without quotes.  It ends before a comment, a colon with a
gap behind it, a less indented line or, inside brackets, an indicator of theirs.
Line ends inside it are folded: a single one reads as a blank, and of several all but
the first are kept.
-/

namespace RestCatalog.Document.Yaml

/-- The indicators that end a plain scalar inside brackets. -/
def isFlowIndicator (c : Char) : Bool :=
  c = ',' || c = '[' || c = ']' || c = '\x7b' || c = '\x7d'

/-- The part of a plain scalar up to a gap or its end. -/
def plainRun (inFlow : Bool) : List Char → List Char
  | [] => []
  | c :: rest =>
    let next := rest.headD endMark
    if isGap c || (c = ':' && (isGap next || (inFlow && isFlowIndicator next))) ||
        (inFlow && (isFlowIndicator c || c = '?')) then []
    else c :: plainRun inFlow rest

/-- Further line ends and blanks behind a line end; none if a document separator is met.
The line ends are collected in `done`, last first. -/
def plainBreaks : Nat → List Char → Cursor → Option (List Char) × Cursor
  | 0, done, cursor => (some done.reverse, cursor)
  | fuel + 1, done, cursor =>
    if cursor.peek = ' ' then plainBreaks fuel done cursor.advance
    else
      match cursor.lineBreak? with
      | none => (some done.reverse, cursor)
      | some (c, next) =>
        if next.atSeparator then (none, next) else plainBreaks fuel (c :: done) next

/-- What stands between two parts of a plain scalar, as it reads, and whether a line end was
crossed.  It is empty if the scalar ends here. -/
def plainSpaces (cursor : Cursor) : List Char × Cursor × Bool :=
  let (blanks, cursor) := cursor.span (· = ' ')
  match cursor.lineBreak? with
  | none => (blanks, cursor, false)
  | some (c, next) =>
    if next.atSeparator then ([], next, true)
    else
      match plainBreaks (next.rest.length + 1) [] next with
      | (none, next) => ([], next, true)
      | (some breaks, next) =>
        let first := if c != '\n' then [c] else if breaks.isEmpty then [' '] else []
        (first ++ breaks, next, true)

/-- Reads the parts of a plain scalar; `done` holds what is read and `gap` what stands before
the next part.  The answer tells whether the scalar ended behind a line end. -/
def plainParts (inFlow : Bool) (indent : Int) :
    Nat → (done gap : List Char) → (crossed : Bool) → Cursor → List Char × Bool × Cursor
  | 0, done, _, crossed, cursor => (done, crossed, cursor)
  | fuel + 1, done, gap, crossed, cursor =>
    let run := plainRun inFlow cursor.rest
    if cursor.peek = '#' || run.isEmpty then (done, crossed, cursor)
    else
      let done := done ++ gap ++ run
      let (gap, cursor, crossed) := plainSpaces (cursor.advanceBy run.length)
      if gap.isEmpty || cursor.peek = '#' || (!inFlow && (cursor.column : Int) < indent) then
        (done, crossed, cursor)
      else plainParts inFlow indent fuel done gap crossed cursor

/-- A plain scalar, and whether it ended behind a line end. -/
def plainScalar (inFlow : Bool) (indent : Int) (cursor : Cursor) : String × Bool × Cursor :=
  let (text, crossed, cursor) :=
    plainParts inFlow (indent + 1) (cursor.rest.length + 1) [] [] false cursor
  (String.ofList text, crossed, cursor)

end RestCatalog.Document.Yaml
