import RestCatalog.Document.Yaml.Token

/-!
# YAML nodes

The tree that tokens write: scalars, sequences and mappings, each with the tag that
was given to it, if any.  An alias stands for a copy of the node that has its anchor.
A text holds one document at most.
-/

namespace RestCatalog.Document.Yaml

/-- The kind that a node asks for: none of its own, or the one named by a tag. -/
abbrev Tag := Option String

/-- A node.  A scalar remembers whether it was plain, or was marked to be read like one. -/
inductive Node where
  | scalar (tag : Tag) (text : String) (isPlain : Bool)
  | sequence (tag : Tag) (items : List Node)
  | mapping (tag : Tag) (entries : List (Node × Node))

instance : Inhabited Node := ⟨.scalar none "" true⟩

/-- What an entry reads as that is left empty. -/
def Node.empty : Node := .scalar none "" true

/-- The tokens still to be read, the nodes with anchors and the tag handles. -/
structure NodeReader where
  tokens : List Token
  anchors : List (String × Node) := []
  handles : List (String × String) := []

/-- A reading step. -/
abbrev Reading (α : Type) := NodeReader → Except Fault (α × NodeReader)

namespace NodeReader

def next (reader : NodeReader) : Token := reader.tokens.headD .streamEnd

def drop (reader : NodeReader) : NodeReader := { reader with tokens := reader.tokens.tail }

/-- Skips the next token if it is the given one. -/
def dropIf (reader : NodeReader) (token : Token) : Bool × NodeReader :=
  if reader.next = token then (true, reader.drop) else (false, reader)

/-- The handles that are known without being declared. -/
def defaultHandles : List (String × String) := [("!", "!"), ("!!", "tag:yaml.org,2002:")]

/-- The tag that a handle and a suffix name. -/
def resolveTag (reader : NodeReader) (handle : Option String) (suffix : String) :
    Except Fault String :=
  match handle with
  | none => .ok suffix
  | some handle =>
    match reader.handles.find? fun entry => entry.1 = handle with
    | some (_, expansion) => .ok (expansion ++ suffix)
    | none => .error .malformed

/-- An anchor in front of a node. -/
def anchor? (reader : NodeReader) : Option String × NodeReader :=
  match reader.next with
  | .anchor name => (some name, reader.drop)
  | _ => (none, reader)

/-- A tag in front of a node. -/
def tag? (reader : NodeReader) : Except Fault (Option String × NodeReader) :=
  match reader.next with
  | .tag handle suffix => (reader.resolveTag handle suffix).map fun tag => (some tag, reader.drop)
  | _ => .ok (none, reader)

/-- The anchor and the tag in front of a node, in either order. -/
def properties (reader : NodeReader) :
    Except Fault ((Option String × Option String) × NodeReader) := do
  match reader.anchor? with
  | (some anchor, reader) =>
    let (tag, reader) ← reader.tag?
    return ((some anchor, tag), reader)
  | (none, reader) =>
    match ← reader.tag? with
    | (some tag, reader) =>
      let (anchor, reader) := reader.anchor?
      return ((anchor, some tag), reader)
    | (none, reader) => return ((none, none), reader)

/-- Gives a node its anchor, which must be a new one. -/
def define (reader : NodeReader) (anchor : Option String) (node : Node) :
    Except Fault NodeReader :=
  match anchor with
  | none => .ok reader
  | some name =>
    if reader.anchors.any fun entry => entry.1 = name then .error .malformed
    else .ok { reader with anchors := (name, node) :: reader.anchors }

end NodeReader

/-- Where a node stands, as far as it decides which nodes may stand there. -/
inductive NodePlace where
  /-- Between brackets. -/
  | flow
  /-- An entry of a block sequence, or a whole document. -/
  | block
  /-- A key or value of a block mapping, where a sequence needs no deeper indentation. -/
  | blockEntry
deriving DecidableEq

/-- A tag that asks for nothing. -/
def plainTag : Tag → Tag
  | some "!" => none
  | tag => tag

mutual

/-- A node. -/
def readNode : Nat → NodePlace → Reading Node
  | 0, _, _ => .error .malformed
  | fuel + 1, place, reader =>
    match reader.next with
    | .alias name =>
      match reader.anchors.find? fun entry => entry.1 = name with
      | some (_, node) => .ok (node, reader.drop)
      | none => .error .malformed
    | _ => do
      let ((anchor, tag), reader) ← reader.properties
      let (node, reader) ← readContent fuel place (anchor.isSome || tag.isSome) tag reader
      return (node, ← reader.define anchor node)

/-- What stands behind the properties of a node. -/
def readContent : Nat → NodePlace → Bool → Tag → Reading Node
  | 0, _, _, _, _ => .error .malformed
  | fuel + 1, place, hasProperties, tag, reader =>
    match reader.next with
    | .scalar text isPlain =>
      .ok (.scalar (plainTag tag) text ((isPlain && tag.isNone) || tag = some "!"), reader.drop)
    | .flowSequenceStart => do
      let (items, reader) ← readFlowItems fuel true reader.drop
      return (.sequence (plainTag tag) items, reader)
    | .flowMappingStart => do
      let (entries, reader) ← readFlowEntries fuel true reader.drop
      return (.mapping (plainTag tag) entries, reader)
    | .blockEntry =>
      if place = .blockEntry then do
        let (items, reader) ← readIndentlessItems fuel reader
        return (.sequence (plainTag tag) items, reader)
      else if hasProperties then .ok (.scalar (plainTag tag) "" (plainTag tag).isNone, reader)
      else .error .malformed
    | .blockSequenceStart =>
      if place = .flow then .error .malformed
      else do
        let (items, reader) ← readBlockItems fuel reader.drop
        return (.sequence (plainTag tag) items, reader)
    | .blockMappingStart =>
      if place = .flow then .error .malformed
      else do
        let (entries, reader) ← readBlockEntries fuel reader.drop
        return (.mapping (plainTag tag) entries, reader)
    | _ =>
      if hasProperties then .ok (.scalar (plainTag tag) "" (plainTag tag).isNone, reader)
      else .error .malformed

/-- The entries of a block sequence up to its end. -/
def readBlockItems : Nat → Reading (List Node)
  | 0, _ => .error .malformed
  | fuel + 1, reader =>
    match reader.next with
    | .blockEntry => do
      let reader := reader.drop
      let (item, reader) ←
        if reader.next = .blockEntry || reader.next = .blockEnd then pure (Node.empty, reader)
        else readNode fuel .block reader
      let (items, reader) ← readBlockItems fuel reader
      return (item :: items, reader)
    | .blockEnd => .ok ([], reader.drop)
    | _ => .error .malformed

/-- The entries of a sequence that is not indented deeper than its mapping. -/
def readIndentlessItems : Nat → Reading (List Node)
  | 0, _ => .error .malformed
  | fuel + 1, reader =>
    match reader.next with
    | .blockEntry => do
      let reader := reader.drop
      let isEmpty := match reader.next with
        | .blockEntry | .key | .value | .blockEnd => true
        | _ => false
      let (item, reader) ←
        if isEmpty then pure (Node.empty, reader) else readNode fuel .block reader
      let (items, reader) ← readIndentlessItems fuel reader
      return (item :: items, reader)
    | _ => .ok ([], reader)

/-- A key or value of a block mapping, which may be left empty. -/
def readBlockPart : Nat → Reading Node
  | 0, _ => .error .malformed
  | fuel + 1, reader =>
    match reader.next with
    | .key | .value | .blockEnd => .ok (Node.empty, reader)
    | _ => readNode fuel .blockEntry reader

/-- The entries of a block mapping up to its end. -/
def readBlockEntries : Nat → Reading (List (Node × Node))
  | 0, _ => .error .malformed
  | fuel + 1, reader =>
    match reader.next with
    | .key => do
      let (key, reader) ← readBlockPart fuel reader.drop
      let (hasValue, reader) := reader.dropIf .value
      let (value, reader) ←
        if hasValue then readBlockPart fuel reader else pure (Node.empty, reader)
      let (entries, reader) ← readBlockEntries fuel reader
      return ((key, value) :: entries, reader)
    | .blockEnd => .ok ([], reader.drop)
    | _ => .error .malformed

/-- A key or value between brackets that `close` ends, which may be left empty. -/
def readFlowPart : Nat → (close : Token) → (isKey : Bool) → Reading Node
  | 0, _, _, _ => .error .malformed
  | fuel + 1, close, isKey, reader =>
    if reader.next = .flowEntry || reader.next = close || (isKey && reader.next = .value) then
      .ok (Node.empty, reader)
    else readNode fuel .flow reader

/-- A key, from its mark on, and its value between brackets. -/
def readFlowPair : Nat → (close : Token) → Reading (Node × Node)
  | 0, _, _ => .error .malformed
  | fuel + 1, close, reader => do
    let (key, reader) ← readFlowPart fuel close true reader.drop
    let (hasValue, reader) := reader.dropIf .value
    let (value, reader) ←
      if hasValue then readFlowPart fuel close false reader else pure (Node.empty, reader)
    return ((key, value), reader)

/-- The items of a flow sequence up to its end; a pair is a mapping of its own. -/
def readFlowItems : Nat → (first : Bool) → Reading (List Node)
  | 0, _, _ => .error .malformed
  | fuel + 1, first, reader =>
    if reader.next = .flowSequenceEnd then .ok ([], reader.drop)
    else do
      let (hasComma, reader) := if first then (true, reader) else reader.dropIf .flowEntry
      if !hasComma then throw .malformed
      match reader.next with
      | .flowSequenceEnd => return ([], reader.drop)
      | .key =>
        let (pair, reader) ← readFlowPair fuel .flowSequenceEnd reader
        let (items, reader) ← readFlowItems fuel false reader
        return (.mapping none [pair] :: items, reader)
      | _ =>
        let (item, reader) ← readNode fuel .flow reader
        let (items, reader) ← readFlowItems fuel false reader
        return (item :: items, reader)

/-- The entries of a flow mapping up to its end; a node without a key mark has no value. -/
def readFlowEntries : Nat → (first : Bool) → Reading (List (Node × Node))
  | 0, _, _ => .error .malformed
  | fuel + 1, first, reader =>
    if reader.next = .flowMappingEnd then .ok ([], reader.drop)
    else do
      let (hasComma, reader) := if first then (true, reader) else reader.dropIf .flowEntry
      if !hasComma then throw .malformed
      match reader.next with
      | .flowMappingEnd => return ([], reader.drop)
      | .key =>
        let (pair, reader) ← readFlowPair fuel .flowMappingEnd reader
        let (entries, reader) ← readFlowEntries fuel false reader
        return (pair :: entries, reader)
      | _ =>
        let (key, reader) ← readNode fuel .flow reader
        let (entries, reader) ← readFlowEntries fuel false reader
        return ((key, Node.empty) :: entries, reader)

end

/-! ## Documents -/

/-- The directives in front of a document: at most one version, of the first major one, and
each tag handle once. -/
def readDirectives (hasVersion : Bool) (handles : List (String × String)) :
    List Token → Except Fault (List (String × String) × List Token)
  | .directive (.version major) :: rest =>
    if hasVersion || major != 1 then .error .malformed else readDirectives true handles rest
  | .directive (.tagHandle handle expansion) :: rest =>
    if handles.any fun entry => entry.1 = handle then .error .malformed
    else readDirectives hasVersion (handles ++ [(handle, expansion)]) rest
  | .directive .other :: rest => readDirectives hasVersion handles rest
  | tokens => .ok (handles, tokens)

/-- The node of a document behind its start mark. -/
def readDocument (fuel : Nat) (reader : NodeReader) : Except Fault (Node × NodeReader) :=
  match reader.next with
  | .directive _ | .documentStart | .documentEnd | .streamEnd => .ok (Node.empty, reader)
  | _ => readNode fuel .block reader

/-- Requires that nothing follows a document but its end marks. -/
def endOfText (tokens : List Token) : Except Fault Unit :=
  if tokens.dropWhile (· = .documentEnd) = [.streamEnd] then .ok () else .error .malformed

/-- The node that the tokens of a text write; none for an empty text. -/
def Node.ofTokens (tokens : List Token) : Except Fault (Option Node) := do
  let fuel := 4 * tokens.length + 8
  match tokens with
  | [.streamEnd] => return none
  | .directive _ :: _ | .documentStart :: _ =>
    let (handles, tokens) ← readDirectives false [] tokens
    let handles := handles ++ NodeReader.defaultHandles
    match tokens with
    | .documentStart :: rest =>
      let (node, reader) ← readDocument fuel { tokens := rest, handles }
      endOfText reader.tokens
      return some node
    | _ => throw .malformed
  | _ =>
    let (node, reader) ←
      readNode fuel .block { tokens, handles := NodeReader.defaultHandles }
    endOfText reader.tokens
    return some node

end RestCatalog.Document.Yaml
