import RestCatalog.Text.Words

/-!
# Resource paths

A path such as `/shops/{shopId}/items` is a text in a normal form, read as the
list of its elements.  An element is a parameter if it is exactly one name in
braces; any other element is a literal, and a literal may still embed variables,
as `{id}.json` does.

Paths are compared up to the names of their parameters: `isEquivalent` asks for
the same shape, `isAncestor` for a strict initial part of it.
-/

namespace RestCatalog

open Text

/-- One element of a path. -/
inductive PathElement where
  | parameter (name : String)
  | literal (text : String)
deriving DecidableEq, Repr

namespace PathElement

/-- The names between braces in a text: every non-empty run without braces that stands between
an opening and a closing one.  `pending` holds what follows the last opening brace, last
first. -/
def namesInBraces (pending : Option (List Char)) : List Char → List (List Char)
  | [] => []
  | c :: rest =>
    if c = '\x7b' then namesInBraces (some []) rest
    else
      match pending with
      | none => namesInBraces none rest
      | some name =>
        if c = '\x7d' then
          if name.isEmpty then namesInBraces none rest
          else name.reverse :: namesInBraces none rest
        else namesInBraces (some (c :: name)) rest

def isBrace (c : Char) : Bool := c = '\x7b' || c = '\x7d'

/-- The name that a text puts in braces as a whole. -/
def wholeName? (text : List Char) : Option (List Char) :=
  match text with
  | '\x7b' :: rest =>
    let name := rest.takeWhile fun c => !isBrace c
    if !name.isEmpty && rest.dropWhile (fun c => !isBrace c) = ['\x7d'] then some name else none
  | _ => none

/-- The element that a text between slashes is. -/
def ofText (text : List Char) : PathElement :=
  match wholeName? text with
  | some name => .parameter (String.ofList name)
  | none => .literal (String.ofList text)

/-- The text of an element. -/
def text : PathElement → String
  | .parameter name => "\x7b" ++ name ++ "\x7d"
  | .literal text => text

def isParameter : PathElement → Bool
  | .parameter _ => true
  | .literal _ => false

/-- The parameter's name without braces, or the literal text. -/
def name : PathElement → String
  | .parameter name => name
  | .literal text => text

/-- The variables of an element, in order. -/
def placeholders : PathElement → List String
  | .parameter name => [name]
  | .literal text => (namesInBraces none text.toList).map String.ofList

/-- Parameters match each other whatever their names, literals only their equals. -/
def fits : PathElement → PathElement → Bool
  | .parameter _, .parameter _ => true
  | .literal a, .literal b => a = b
  | _, _ => false

end PathElement

/-- A path in its written form: `ofText` begins it with one slash. -/
structure Path where
  text : String
deriving DecidableEq, Repr

namespace Path

/-- The path of a text: white space around it and then slashes at both ends are dropped, and
one slash is put in front. -/
def ofText (text : String) : Path :=
  ⟨"/" ++ String.ofList (stripChars (· = '/') (stripChars isBlank text.toList))⟩

instance : Inhabited Path := ⟨ofText ""⟩

/-- The elements of a path, left to right. -/
def elements (path : Path) : List PathElement :=
  ((splitOn (· = '/') path.text.toList).filter fun piece => !piece.isEmpty).map
    PathElement.ofText

/-- How many elements a path has. -/
def levels (path : Path) : Nat := path.elements.length

def endsInParameter (path : Path) : Bool :=
  path.elements.getLast?.any PathElement.isParameter

/-- The variables of all elements, in order. -/
def variableNames (path : Path) : List String := path.elements.flatMap PathElement.placeholders

def hasVariables (path : Path) : Bool :=
  path.elements.any fun element => !element.placeholders.isEmpty

/-- The texts of the elements that are no parameters. -/
def literals (path : Path) : List String :=
  (path.elements.filter fun element => !element.isParameter).map PathElement.text

/-- The text of the last element, empty for the root. -/
def lastText (path : Path) : String :=
  (path.elements.getLast?.map PathElement.text).getD ""

/-- Whether two lists of elements match pairwise, as far as both go. -/
def fitTogether (a b : List PathElement) : Bool :=
  (a.zip b).all fun pair => pair.1.fits pair.2

/-- The same shape: elements match pairwise. -/
def isEquivalent (a b : Path) : Bool :=
  a.levels = b.levels && fitTogether a.elements b.elements

/-- A strict initial part, parameter names apart. -/
def isAncestor (a b : Path) : Bool :=
  a.levels < b.levels && fitTogether a.elements b.elements

/-- Whether creating something at this path needs another resource to exist first: the path
has a variable above its last element, or at least two. -/
def needsDependency (path : Path) : Bool :=
  (path.hasVariables && !path.endsInParameter) || 2 ≤ path.variableNames.length

end Path

end RestCatalog
