import RestCatalog.Document.Value
import RestCatalog.Text.Blank
import RestCatalog.Text.Numeral

/-!
# Checked fields

Records are read from mappings of a document.  A check answers a value, or all
problems found, each with the dotted path of its field.  Some values are accepted
for others: whole numbers and a few words for truth values, and texts for
integers.
-/

namespace RestCatalog

open Document

/-- A rejected field and what is wrong with it. -/
structure Problem where
  location : String
  message : String
deriving DecidableEq, Repr

def Problem.text (problem : Problem) : String := problem.location ++ ": " ++ problem.message

/-- The outcome of a check. -/
inductive Checked (α : Type) where
  | valid (value : α)
  | rejected (problems : List Problem)
deriving Repr

namespace Checked

variable {α β : Type}

def map (f : α → β) : Checked α → Checked β
  | valid value => valid (f value)
  | rejected problems => rejected problems

/-- Applies a checked function to a checked value; the problems of both are kept, in order. -/
def apply (f : Checked (α → β)) (x : Checked α) : Checked β :=
  match f, x with
  | valid f, valid value => valid (f value)
  | valid _, rejected problems => rejected problems
  | rejected problems, valid _ => rejected problems
  | rejected problems, rejected more => rejected (problems ++ more)

instance : Functor Checked := ⟨map, fun value => map fun _ => value⟩

instance : Applicative Checked where
  pure := valid
  seq f x := apply f (x ())

/-- A check that fails with one message. -/
def reject (message : String) : Checked α := rejected [⟨"", message⟩]

/-- The location of a problem inside a field. -/
def locate (field location : String) : String :=
  if location.isEmpty then field else field ++ "." ++ location

/-- Moves the problems of a check into a field. -/
def inField (field : String) : Checked α → Checked α
  | valid value => valid value
  | rejected problems =>
    rejected (problems.map fun problem =>
      { problem with location := locate field problem.location })

/-- Checks every element of a list; problems carry the place of their element. -/
def each (check : Value → Checked α) (items : List Value) : Checked (List α) :=
  (items.zipIdx.map fun entry => (check entry.1).inField (toString entry.2)).foldr
    (fun item rest => apply (map List.cons item) rest) (valid [])

/-- The outcome for a field that may be left out, from the value that it is given. -/
def ifGiven {V : Type} (given : Option V) (field : String) (check : V → Checked α)
    (default : α) : Checked α :=
  match given with
  | some value => (check value).inField field
  | none => valid default

end Checked

/-- The entries of a mapping with values of any kind.  A key stands as the text that it is, if it
is one. -/
abbrev Entries (V : Type) := List (Option String × V)

namespace Entries

variable {V α : Type}

/-- The value at a text key. -/
def given? (entries : Entries V) (name : String) : Option V :=
  (entries.find? fun entry => entry.1 = some name).map (·.2)

/-- Reads a field that may be left out. -/
def optional (entries : Entries V) (name : String) (check : V → Checked α) (default : α) :
    Checked α :=
  Checked.ifGiven (entries.given? name) name check default

end Entries

/-- The fields that a record is read from. -/
abbrev Fields := List (Value × Value)

namespace Fields

variable {α : Type}

def entries (fields : Fields) : Entries Value :=
  fields.map fun field => (field.1.text?, field.2)

/-- Reads a field that has to be there. -/
def required (fields : Fields) (name : String) (check : Value → Checked α) : Checked α :=
  match Value.field? fields name with
  | some value => (check value).inField name
  | none => .rejected [⟨name, "Field required"⟩]

/-- Reads a field that may be left out. -/
def optional (fields : Fields) (name : String) (check : Value → Checked α) (default : α) :
    Checked α :=
  Checked.ifGiven (Value.field? fields name) name check default

end Fields

/-! ## Kinds of fields -/

namespace Check

variable {α : Type}

def text : Value → Checked String
  | .text value => .valid value
  | _ => .reject "Input should be a valid string"

/-- Words that mean false and words that mean true, letter case apart. -/
def falseWords : List String := ["0", "off", "f", "false", "n", "no"]

def trueWords : List String := ["1", "on", "t", "true", "y", "yes"]

def unclearBool : String := "Input should be a valid boolean, unable to interpret input"

/-- The truth value of an integer. -/
def boolOfInt (n : Int) : Checked Bool :=
  if n = 0 then .valid false else if n = 1 then .valid true else .reject unclearBool

def bool : Value → Checked Bool
  | .bool value => .valid value
  | .int n => boolOfInt n
  | .float x =>
    match x.toInt? with
    | some n => boolOfInt n
    | none => .reject "Input should be a valid boolean"
  | .text word =>
    if falseWords.contains word.toLower then .valid false
    else if trueWords.contains word.toLower then .valid true
    else .reject unclearBool
  | _ => .reject "Input should be a valid boolean"

/-- White space that a numeral may stand between; the information separators do not count. -/
def isNumeralBlank (c : Char) : Bool := Text.isBlank c && !(28 ≤ c.toNat && c.toNat ≤ 31)

/-- The integer that a text writes: a sign, digits, and a fraction of zeros at most. -/
def intOfText? (text : String) : Option Int :=
  let numeral := Text.stripChars isNumeralBlank text.toList
  let fraction := (numeral.dropWhile (· != '.')).drop 1
  if fraction.all (· == '0') then Text.intOfNumeral? (numeral.takeWhile (· != '.')) else none

def unclearInt : String :=
  "Input should be a valid integer, unable to parse string as an integer"

def int : Value → Checked Int
  | .bool value => .valid (if value then 1 else 0)
  | .int n => .valid n
  | .float x =>
    if !x.isFinite then .reject "Input should be a finite number"
    else
      match x.toInt? with
      | none => .reject "Input should be a valid integer, got a number with a fractional part"
      | some n => if n.natAbs < 0x8000000000000000 then .valid n else .reject unclearInt
  | .text value =>
    if 4300 < value.length then
      .reject "Unable to parse input string as an integer, exceeded maximum size"
    else
      match intOfText? value with
      | some n => .valid n
      | none => .reject unclearInt
  | _ => .reject "Input should be a valid integer"

/-- An integer that is not less than a bound. -/
def atLeast (least : Nat) (value : Value) : Checked { n : Nat // least ≤ n } :=
  match int value with
  | .rejected problems => .rejected problems
  | .valid n =>
    if h : (least : Int) ≤ n then .valid ⟨n.toNat, Int.le_toNat (by omega) |>.mpr h⟩
    else .reject ("Input should be greater than or equal to " ++ toString least)

/-- A value or nothing. -/
def orNull (check : Value → Checked α) : Value → Checked (Option α)
  | .null => .valid none
  | value => (check value).map some

def list (check : Value → Checked α) : Value → Checked (List α)
  | .list items => .each check items
  | _ => .reject "Input should be a valid list"

/-- One of a few words; `message` names them. -/
def oneOf (read : String → Option α) (message : String) : Value → Checked α
  | .text word =>
    match read word with
    | some value => .valid value
    | none => .reject message
  | _ => .reject message

end Check

end RestCatalog
