import RestCatalog.Document.Yaml.Reader

/-!
# Document files

A document is kept in a file as UTF-8 text in YAML, or in JSON where it is no YAML.
The ends of lines may be written in three ways and read as a line feed.
-/

namespace RestCatalog.Document

/-- Why a file holds no document. -/
inductive FileError where
  | missing
  | notUtf8
  /-- Neither YAML nor JSON. -/
  | unreadable (file : String)
  /-- A scalar that has no value. -/
  | badScalar (message : String)
  | notMapping (file : String)
deriving DecidableEq, Repr

def FileError.message : FileError → String
  | .missing => "the file does not exist"
  | .notUtf8 => "the file is not a UTF-8 text"
  | .unreadable file => file ++ " is neither YAML nor JSON"
  | .badScalar message => message
  | .notMapping file => file ++ " does not contain a mapping at its root"

/-- A text in which every line ends with a line feed. -/
def unifyLines : List Char → List Char
  | [] => []
  | '\r' :: '\n' :: rest => '\n' :: unifyLines rest
  | '\r' :: rest => '\n' :: unifyLines rest
  | c :: rest => c :: unifyLines rest

/-- The text of a file; none if it is no UTF-8. -/
def decode? (content : ByteArray) : Option String :=
  (String.fromUTF8? content).map fun text => String.ofList (unifyLines text.toList)

/-- The value that a document text writes in YAML, or else in JSON. -/
def parseText (file text : String) : Except FileError Value :=
  match Yaml.parse text with
  | .ok value => .ok value
  | .error (.badScalar message) => .error (.badScalar message)
  | .error .malformed =>
    match Json.parse? text with
    | some value => .ok value
    | none => .error (.unreadable file)

/-- The mapping in a file, if the file exists. -/
def loadMapping (file : String) (content : Option ByteArray) :
    Except FileError (List (Value × Value)) :=
  match content with
  | none => .error .missing
  | some content =>
    match decode? content with
    | none => .error .notUtf8
    | some text =>
      match parseText file text with
      | .error error => .error error
      | .ok (.map entries) => .ok entries
      | .ok _ => .error (.notMapping file)

end RestCatalog.Document
