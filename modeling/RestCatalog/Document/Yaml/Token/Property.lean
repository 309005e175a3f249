import RestCatalog.Document.Yaml.Token

/-!
# Anchors, tags and directives
-/

namespace RestCatalog.Document.Yaml

/-- The name of an anchor or alias behind its indicator. -/
def anchorName (cursor : Cursor) : Except Fault (String × Cursor) :=
  let (name, cursor) := cursor.span isNameChar
  let c := cursor.peek
  let ends := isGap c || c = '?' || c = ':' || c = ',' || c = ']' || c = '\x7d' || c = '%' ||
    c = '@' || c = '\x60'
  if name.isEmpty || !ends then .error .malformed else .ok (String.ofList name, cursor)

/-- A tag handle: `!`, `!!` or a name between two of them. -/
def tagHandle (cursor : Cursor) : Except Fault (String × Cursor) :=
  if cursor.peek != '!' then .error .malformed
  else
    let (name, next) := cursor.advance.span isNameChar
    if cursor.peekAt 1 = ' ' then .ok ("!", cursor.advance)
    else if next.peek = '!' then .ok (String.ofList ('!' :: name ++ ['!']), next.advance)
    else .error .malformed

/-- The characters of tags apart from the escapes that `%` starts. -/
def isTagChar (c : Char) : Bool :=
  isNameChar c || "-;/?:@&=+$,_.!~*\x27()[]".toList.contains c

/-- The bytes of consecutive `%` escapes. -/
def escapedBytes : Nat → List UInt8 → Cursor → Except Fault (List UInt8 × Cursor)
  | 0, _, _ => .error .malformed
  | fuel + 1, done, cursor =>
    if cursor.peek = '%' then
      match Json.hexValue? (cursor.peekAt 1), Json.hexValue? (cursor.peekAt 2) with
      | some high, some low =>
        escapedBytes fuel (UInt8.ofNat (16 * high + low) :: done) (cursor.advanceBy 3)
      | _, _ => .error .malformed
    else .ok (done.reverse, cursor)

/-- The text of a tag with its escapes resolved. -/
def tagText : Nat → List Char → Cursor → Except Fault (List Char × Cursor)
  | 0, _, _ => .error .malformed
  | fuel + 1, done, cursor =>
    let (run, cursor) := cursor.span isTagChar
    let done := done ++ run
    if cursor.peek = '%' then do
      let (bytes, cursor) ← escapedBytes (cursor.rest.length + 1) [] cursor
      match String.fromUTF8? (ByteArray.mk bytes.toArray) with
      | some text => tagText fuel (done ++ text.toList) cursor
      | none => throw .malformed
    else .ok (done, cursor)

/-- The text of a tag, which must not be missing. -/
def tagSuffix (cursor : Cursor) : Except Fault (String × Cursor) := do
  if !isTagChar cursor.peek && cursor.peek != '%' then throw .malformed
  let (text, cursor) ← tagText (cursor.rest.length + 1) [] cursor
  return (String.ofList text, cursor)

/-- Whether the tag at this place names its handle before a second `!`. -/
def hasNamedHandle (cursor : Cursor) : Bool :=
  ((cursor.rest.drop 1).takeWhile fun c => !isSpaceOrLineEnd c).contains '!'

/-- A tag from its `!` on. -/
def tagToken (cursor : Cursor) : Except Fault (Token × Cursor) := do
  let next := cursor.peekAt 1
  let (handle, suffix, cursor) ←
    if next = '<' then
      let (suffix, cursor) ← tagSuffix (cursor.advanceBy 2)
      if cursor.peek != '>' then throw .malformed
      pure (none, suffix, cursor.advance)
    else if isGap next then pure (none, "!", cursor.advance)
    else
      let (handle, cursor) ←
        if hasNamedHandle cursor then tagHandle cursor else pure ("!", cursor.advance)
      let (suffix, cursor) ← tagSuffix cursor
      pure (some handle, suffix, cursor)
  if isSpaceOrLineEnd cursor.peek then return (.tag handle suffix, cursor)
  else throw .malformed

/-- A number of a version, with what follows it. -/
def versionNumber (cursor : Cursor) : Except Fault (Nat × Cursor) :=
  let (digits, cursor) := cursor.span Text.isAsciiDigit
  if digits.isEmpty then .error .malformed else .ok (Text.natOfDigits digits, cursor)

/-- The value of a directive with a name. -/
def directiveValue (name : String) (cursor : Cursor) : Except Fault (Directive × Cursor) := do
  if name = "YAML" then
    let (major, cursor) ← versionNumber (cursor.skip (· = ' '))
    if cursor.peek != '.' then throw .malformed
    let (_, cursor) ← versionNumber cursor.advance
    if isSpaceOrLineEnd cursor.peek then return (.version major, cursor) else throw .malformed
  else if name = "TAG" then
    let (handle, cursor) ← tagHandle (cursor.skip (· = ' '))
    if cursor.peek != ' ' then throw .malformed
    let (expansion, cursor) ← tagSuffix (cursor.skip (· = ' '))
    if isSpaceOrLineEnd cursor.peek then return (.tagHandle handle expansion, cursor)
    else throw .malformed
  else return (.other, cursor.skip fun c => !isLineEnd c)

/-- A directive from its `%` on, with the rest of its line. -/
def directiveToken (cursor : Cursor) : Except Fault (Token × Cursor) := do
  let (name, cursor) := cursor.advance.span isNameChar
  if name.isEmpty || !isSpaceOrLineEnd cursor.peek then throw .malformed
  let (directive, cursor) ← directiveValue (String.ofList name) cursor
  return (.directive directive, ← cursor.restOfLine)

end RestCatalog.Document.Yaml
