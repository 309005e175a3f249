import RestCatalog.Path.Basic
import RestCatalog.OrderedMap

/-!
# Path tokens

Every element of a path becomes a token that knows its level, the nearest
parameter before it and the literals since that parameter.  A map of tokens is
keyed by the elements' names, where a repeated name gets its level appended.
A path of parameters only has no tokens.
-/

namespace RestCatalog

open Text

/-- What stands between the texts of a segment. -/
def segmentSeparator : String := "@"

/-- An element of a path in its place. -/
structure PathToken where
  text : String
  level : Nat
  isParameter : Bool
  /-- The level of the nearest parameter before the token. -/
  parameterBefore : Option Nat
  /-- The literals since that parameter, joined; a literal's own text is the last of them. -/
  segment : String
  /-- The words of a compound literal. -/
  words : List String
deriving DecidableEq, Repr

namespace PathToken

def key (token : PathToken) : String := lower token.text

def isStar (token : PathToken) : Bool := token.text = "*"

/-- The words of a token, or its lower-case text if it is no compound. -/
def flatKeys (token : PathToken) : List String :=
  if token.words.isEmpty then [token.key] else token.words

/-- The tokens of elements from a level on, after the parameter at level `before` and the
literals `pending`. -/
def ofElements (splitting : Bool) (level : Nat) (before : Option Nat) (pending : List String) :
    List PathElement → List PathToken
  | [] => []
  | .parameter name :: rest =>
    ⟨name, level, true, before, segmentSeparator.intercalate pending, []⟩ ::
      ofElements splitting (level + 1) (some level) [] rest
  | .literal text :: rest =>
    let pending := pending ++ [text]
    ⟨text, level, false, before, segmentSeparator.intercalate pending,
      if splitting then splitWords text else []⟩ ::
      ofElements splitting (level + 1) before pending rest

end PathToken

/-- The tokens of a path by their keys. -/
abbrev TokenMap := OrderedMap String PathToken

namespace TokenMap

/-- The key that a token gets beside the tokens already there. -/
def keyFor (tokens : TokenMap) (token : PathToken) : String :=
  if tokens.contains token.text then token.text ++ "#" ++ toString token.level else token.text

/-- The map of tokens written one after the other. -/
def ofTokens (tokens : List PathToken) : TokenMap :=
  tokens.foldl (fun map token => map.insert (keyFor map token) token) {}

/-- The tokens of a path; none if the path has no literal. -/
def ofPath (path : Path) (splitting : Bool) : TokenMap :=
  if path.literals.isEmpty then {}
  else ofTokens (PathToken.ofElements splitting 0 none [] path.elements)

/-- The token at a level, or the last one if there is none. -/
def at? (tokens : TokenMap) (level : Nat) : Option PathToken :=
  match tokens.values.find? fun token => token.level = level with
  | some token => some token
  | none => tokens.values.getLast?

/-- The words of the literals, in order; a lone `*` counts only on request. -/
def flatWords (tokens : TokenMap) (withStar : Bool) : List String :=
  (tokens.values.filter fun token => !token.isParameter && (withStar || !token.isStar)).flatMap
    PathToken.flatKeys

/-- Whether a text is a literal of the path, letter case apart. -/
def hasLiteral (tokens : TokenMap) (text : String) : Bool :=
  tokens.values.any fun token => !token.isParameter && token.key = lower text

/-- The tokens of parameters with a given name, letter case apart. -/
def parametersNamed (tokens : TokenMap) (name : String) : List PathToken :=
  tokens.values.filter fun token => token.isParameter && token.key = lower name

end TokenMap

end RestCatalog
