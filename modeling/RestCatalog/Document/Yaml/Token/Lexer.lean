import RestCatalog.Document.Yaml.Token.BlockScalar
import RestCatalog.Document.Yaml.Token.Plain
import RestCatalog.Document.Yaml.Token.Property
import RestCatalog.Document.Yaml.Token.QuotedScalar

/-!
# The tokens of a YAML text

Indentation opens and closes block collections, and a key of a mapping shows only by
the colon behind it.  Until then the place of every token that may be a key is
remembered, one for each level of brackets; when the colon comes, the key mark, and
the start of a mapping if one is due, are put in front of that token.
-/

namespace RestCatalog.Document.Yaml

/-- The place of a token that may turn out to be a key.  A required one has to. -/
structure PossibleKey where
  position : Nat
  required : Bool
  index : Nat
  line : Nat
  column : Nat

/-- The state between two tokens; the tokens read so far stand last first. -/
structure Lexer where
  cursor : Cursor
  flowLevel : Nat := 0
  indent : Int := -1
  indents : List Int := []
  keyAllowed : Bool := true
  keys : List (Nat × PossibleKey) := []
  tokens : List Token := []
  count : Nat := 0

namespace Lexer

def inFlow (lexer : Lexer) : Bool := 0 < lexer.flowLevel

def push (lexer : Lexer) (token : Token) : Lexer :=
  { lexer with tokens := token :: lexer.tokens, count := lexer.count + 1 }

/-- Puts a token in front of the one at a position. -/
def insertAt (lexer : Lexer) (position : Nat) (token : Token) : Lexer :=
  let later := lexer.count - position
  { lexer with
    tokens := lexer.tokens.take later ++ token :: lexer.tokens.drop later
    count := lexer.count + 1 }

def advance (lexer : Lexer) (n : Nat) : Lexer :=
  { lexer with cursor := lexer.cursor.advanceBy n }

/-! ## Possible keys -/

/-- A key has to stand on one line and within 1024 characters.  Older possible keys are given
up; a required one cannot be. -/
def dropStaleKeys (lexer : Lexer) : Except Fault Lexer :=
  let isStale (key : PossibleKey) : Bool :=
    key.line != lexer.cursor.line || 1024 < lexer.cursor.index - key.index
  if lexer.keys.any fun entry => isStale entry.2 && entry.2.required then .error .malformed
  else .ok { lexer with keys := lexer.keys.filter fun entry => !isStale entry.2 }

/-- Gives up the possible key of this level. -/
def dropKey (lexer : Lexer) : Except Fault Lexer :=
  if lexer.keys.any fun entry => entry.1 = lexer.flowLevel && entry.2.required then
    .error .malformed
  else .ok { lexer with keys := lexer.keys.filter fun entry => entry.1 != lexer.flowLevel }

/-- Remembers the next token as a possible key. -/
def saveKey (lexer : Lexer) : Except Fault Lexer := do
  if !lexer.keyAllowed then return lexer
  let required := !lexer.inFlow && lexer.indent = lexer.cursor.column
  let lexer ← lexer.dropKey
  let key : PossibleKey :=
    { position := lexer.count, required, index := lexer.cursor.index, line := lexer.cursor.line
      column := lexer.cursor.column }
  return { lexer with keys := (lexer.flowLevel, key) :: lexer.keys }

/-! ## Indentation -/

/-- Closes the block collections that are indented more than a column. -/
def unwindTo (column : Int) : Nat → Lexer → Lexer
  | 0, lexer => lexer
  | fuel + 1, lexer =>
    if column < lexer.indent then
      unwindTo column fuel
        ({ lexer with indent := lexer.indents.headD (-1), indents := lexer.indents.tail }.push
          .blockEnd)
    else lexer

/-- Closes the block collections that end before a column; inside brackets none do. -/
def unwind (lexer : Lexer) (column : Int) : Lexer :=
  if lexer.inFlow then lexer else unwindTo column (lexer.indents.length + 1) lexer

/-- Whether a collection at a column is deeper than the present one. -/
def isDeeper (lexer : Lexer) (column : Nat) : Bool := lexer.indent < column

/-- Enters a collection at a column. -/
def enter (lexer : Lexer) (column : Nat) : Lexer :=
  { lexer with indents := lexer.indent :: lexer.indents, indent := column }

/-- Enters a collection at this column, unless the present one is there already. -/
def enterHere (lexer : Lexer) (start : Token) : Lexer :=
  let column := lexer.cursor.column
  if lexer.isDeeper column then (lexer.enter column).push start else lexer

/-! ## Tokens by their first character -/

/-- Skips blanks, comments and line ends before the next token. -/
def toNextToken : Nat → Lexer → Lexer
  | 0, lexer => lexer
  | fuel + 1, lexer =>
    let cursor := (lexer.cursor.skip (· = ' ')).skipComment
    match cursor.lineBreak? with
    | some (_, next) =>
      toNextToken fuel
        { lexer with cursor := next, keyAllowed := lexer.keyAllowed || !lexer.inFlow }
    | none => { lexer with cursor }

def streamEnd (lexer : Lexer) : Except Fault Lexer := do
  let lexer ← (lexer.unwind (-1)).dropKey
  return { lexer with keyAllowed := false, keys := [] }.push .streamEnd

def directive (lexer : Lexer) : Except Fault Lexer := do
  let lexer ← (lexer.unwind (-1)).dropKey
  let (token, cursor) ← directiveToken lexer.cursor
  return { lexer with keyAllowed := false, cursor }.push token

def documentMark (lexer : Lexer) (token : Token) : Except Fault Lexer := do
  let lexer ← (lexer.unwind (-1)).dropKey
  return ({ lexer with keyAllowed := false }.push token).advance 3

def flowStart (lexer : Lexer) (token : Token) : Except Fault Lexer := do
  let lexer ← lexer.saveKey
  return ({ lexer with flowLevel := lexer.flowLevel + 1, keyAllowed := true }.push token).advance 1

/-- Closing brackets without an opening one are left for later to refuse. -/
def flowEnd (lexer : Lexer) (token : Token) : Except Fault Lexer := do
  if !lexer.inFlow then throw .malformed
  let lexer ← lexer.dropKey
  return ({ lexer with flowLevel := lexer.flowLevel - 1, keyAllowed := false }.push token).advance 1

def flowEntry (lexer : Lexer) : Except Fault Lexer := do
  let lexer ← lexer.dropKey
  return ({ lexer with keyAllowed := true }.push .flowEntry).advance 1

def blockEntry (lexer : Lexer) : Except Fault Lexer := do
  if !lexer.inFlow && !lexer.keyAllowed then throw .malformed
  let lexer := if lexer.inFlow then lexer else lexer.enterHere .blockSequenceStart
  let lexer ← lexer.dropKey
  return ({ lexer with keyAllowed := true }.push .blockEntry).advance 1

def key (lexer : Lexer) : Except Fault Lexer := do
  if !lexer.inFlow && !lexer.keyAllowed then throw .malformed
  let lexer := if lexer.inFlow then lexer else lexer.enterHere .blockMappingStart
  let lexer ← lexer.dropKey
  return ({ lexer with keyAllowed := !lexer.inFlow }.push .key).advance 1

/-- A colon: the possible key of this level becomes a key. -/
def value (lexer : Lexer) : Except Fault Lexer := do
  let lexer ← match lexer.keys.find? fun entry => entry.1 = lexer.flowLevel with
    | some (_, key) =>
      let lexer := { lexer with keys := lexer.keys.filter fun entry => entry.1 != lexer.flowLevel }
      let lexer := lexer.insertAt key.position .key
      let lexer :=
        if !lexer.inFlow && lexer.isDeeper key.column then
          (lexer.enter key.column).insertAt key.position .blockMappingStart
        else lexer
      pure { lexer with keyAllowed := false }
    | none =>
      if !lexer.inFlow && !lexer.keyAllowed then throw .malformed
      let lexer := if lexer.inFlow then lexer else lexer.enterHere .blockMappingStart
      let lexer := { lexer with keyAllowed := !lexer.inFlow }
      lexer.dropKey
  return (lexer.push .value).advance 1

/-- A token that may be a key and is followed by none. -/
def keyLike (lexer : Lexer) (read : Cursor → Except Fault (Token × Cursor)) :
    Except Fault Lexer := do
  let lexer ← lexer.saveKey
  let (token, cursor) ← read lexer.cursor
  return { lexer with keyAllowed := false, cursor }.push token

def block (lexer : Lexer) : Except Fault Lexer := do
  let lexer ← lexer.dropKey
  let (text, cursor) ← blockScalar lexer.indent lexer.cursor
  return { lexer with keyAllowed := true, cursor }.push (.scalar text false)

def plain (lexer : Lexer) : Except Fault Lexer := do
  let lexer ← lexer.saveKey
  let (text, crossed, cursor) := plainScalar lexer.inFlow lexer.indent lexer.cursor
  return { lexer with keyAllowed := crossed, cursor }.push (.scalar text true)

/-- The characters that cannot start a plain scalar. -/
def isIndicator (c : Char) : Bool := "-?:,[]\x7b\x7d#&*!|>\x27\"%@\x60".toList.contains c

/-- Whether a plain scalar starts here. -/
def startsPlain (lexer : Lexer) : Bool :=
  let c := lexer.cursor.peek
  (!isGap c && !isIndicator c) ||
    (!isGap (lexer.cursor.peekAt 1) && (c = '-' || (!lexer.inFlow && (c = '?' || c = ':'))))

/-- Reads the token at this place. -/
def token (lexer : Lexer) : Except Fault Lexer :=
  let cursor := lexer.cursor
  let c := cursor.peek
  let beforeGap := isGap (cursor.peekAt 1)
  if c = '%' && cursor.column = 0 then lexer.directive
  else if cursor.column = 0 && cursor.marks '-' then lexer.documentMark .documentStart
  else if cursor.column = 0 && cursor.marks '.' then lexer.documentMark .documentEnd
  else if c = '[' then lexer.flowStart .flowSequenceStart
  else if c = '\x7b' then lexer.flowStart .flowMappingStart
  else if c = ']' then lexer.flowEnd .flowSequenceEnd
  else if c = '\x7d' then lexer.flowEnd .flowMappingEnd
  else if c = ',' then lexer.flowEntry
  else if c = '-' && beforeGap then lexer.blockEntry
  else if c = '?' && (lexer.inFlow || beforeGap) then lexer.key
  else if c = ':' && (lexer.inFlow || beforeGap) then lexer.value
  else if c = '*' then
    lexer.keyLike fun cursor =>
      (anchorName cursor.advance).map fun (name, rest) => (.alias name, rest)
  else if c = '&' then
    lexer.keyLike fun cursor =>
      (anchorName cursor.advance).map fun (name, rest) => (.anchor name, rest)
  else if c = '!' then lexer.keyLike tagToken
  else if (c = '|' || c = '>') && !lexer.inFlow then lexer.block
  else if c = '\x27' || c = '"' then
    lexer.keyLike fun cursor =>
      (quotedScalar cursor).map fun (text, rest) => (.scalar text false, rest)
  else if lexer.startsPlain then lexer.plain
  else .error .malformed

/-- Reads tokens up to the end of the text. -/
def run : Nat → Lexer → Except Fault (List Token)
  | 0, _ => .error .malformed
  | fuel + 1, lexer => do
    let lexer := toNextToken (lexer.cursor.rest.length + 1) lexer
    let lexer ← lexer.dropStaleKeys
    let lexer := lexer.unwind lexer.cursor.column
    if lexer.cursor.peek = endMark then
      return (← lexer.streamEnd).tokens.reverse
    else run fuel (← lexer.token)

end Lexer

/-- The tokens of a text; a byte order mark in front of it is skipped. -/
def Token.ofText (text : List Char) : Except Fault (List Token) :=
  if !text.all isAllowed then .error .malformed
  else
    let start : Cursor := { rest := text }
    let start := if start.peek = byteOrderMark then start.advance else start
    Lexer.run (text.length + 2) { cursor := start }

end RestCatalog.Document.Yaml
