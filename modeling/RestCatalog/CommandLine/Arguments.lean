import RestCatalog.Text.Blank
import RestCatalog.Text.Numeral

/-!
# Command line arguments

A command line names a command, its options and its other arguments.  An option is
written in full behind two dashes, with its value behind `=` or in the next argument,
or as one letter behind a dash, where several may stand together and the last may
have its value behind it.  Two dashes alone end the options.  The last setting of an
option counts.
-/

namespace RestCatalog.CommandLine

/-- An option that a command knows. -/
structure OptionSpec where
  name : String
  letter : Option Char := none
  takesValue : Bool := true

/-- The options that are set, in order, and the other arguments. -/
structure Arguments where
  settings : List (String × String) := []
  others : List String := []

/-- The options that one argument sets, and the one whose value the next argument is. -/
structure Setting where
  settings : List (String × String) := []
  pending : Option String := none

/-- Reads the letters behind a single dash. -/
def readLetters (specs : List OptionSpec) : List Char → Option Setting
  | [] => some {}
  | c :: rest =>
    match specs.find? fun spec => spec.letter = some c with
    | none => none
    | some spec =>
      if spec.takesValue then
        if rest.isEmpty then some { pending := some spec.name }
        else some { settings := [(spec.name, String.ofList rest)] }
      else
        (readLetters specs rest).map fun setting =>
          { setting with settings := (spec.name, "") :: setting.settings }

/-- Reads an option behind two dashes. -/
def readName (specs : List OptionSpec) (text : List Char) : Option Setting :=
  let name := String.ofList (text.takeWhile (· != '='))
  let value := text.dropWhile (· != '=')
  match specs.find? fun spec => spec.name = name with
  | none => none
  | some spec =>
    match spec.takesValue, value with
    | true, _ :: value => some { settings := [(name, String.ofList value)] }
    | true, [] => some { pending := some name }
    | false, [] => some { settings := [(name, "")] }
    | false, _ => none

/-- Reads an argument that is an option. -/
def readOption (specs : List OptionSpec) (text : List Char) : Option Setting :=
  match text with
  | '-' :: '-' :: name => readName specs name
  | '-' :: letters => readLetters specs letters
  | _ => none

def isOption (text : List Char) : Bool :=
  match text with
  | '-' :: _ :: _ => true
  | _ => false

def Arguments.addSettings (arguments : Arguments) (settings : List (String × String)) :
    Arguments :=
  { arguments with settings := settings ++ arguments.settings }

/-- Reads the arguments of a command that knows the given options.  Where options are not
mixed with others, the first argument that is none ends them. -/
def Arguments.read (specs : List OptionSpec) (mixed : Bool) : List String → Option Arguments
  | [] => some {}
  | text :: rest =>
    if text = "--" then some { others := rest }
    else if isOption text.toList then
      match readOption specs text.toList with
      | none => none
      | some ⟨settings, none⟩ => (Arguments.read specs mixed rest).map (·.addSettings settings)
      | some ⟨settings, some name⟩ =>
        match rest with
        | [] => none
        | value :: more =>
          (Arguments.read specs mixed more).map (·.addSettings (settings ++ [(name, value)]))
    else if mixed then
      (Arguments.read specs mixed rest).map fun arguments =>
        { arguments with others := text :: arguments.others }
    else some { others := text :: rest }

/-- The last value of an option. -/
def Arguments.setting? (arguments : Arguments) (name : String) : Option String :=
  (arguments.settings.reverse.find? fun setting => setting.1 = name).map (·.2)

/-- The integer value of an option; refused if it is none. -/
def Arguments.int? (arguments : Arguments) (name : String) : Option (Option Int) :=
  match arguments.setting? name with
  | none => some none
  | some text =>
    (Text.intOfNumeral? (Text.stripChars Text.isBlank text.toList)).map some

/-- The positive value of an option; refused if it is none. -/
def Arguments.positive? (arguments : Arguments) (name : String) : Option (Option Nat) :=
  match arguments.int? name with
  | none => none
  | some none => some none
  | some (some n) => if 1 ≤ n then some (some n.toNat) else none

/-! ## Commands -/

/-- What is to be done with the catalog of a document. -/
inductive Task where
  | analyze (output : Option String)
  | sample (target : String) (seed : Option Int) (maxSize : Option Nat)
  | pick (path : String) (seed : Option Int) (count : Nat)
deriving Repr

/-- A command line that is understood. -/
structure Invocation where
  document : String
  config : Option String
  task : Task
deriving Repr

def configOption : OptionSpec := { name := "config" }

def seedOption : OptionSpec := { name := "seed" }

def mainOptions : List OptionSpec :=
  [{ name := "verbose", letter := some 'v', takesValue := false }]

/-- Reads the arguments behind the name of a command. -/
def readCommand (command : String) (rest : List String) : Option Invocation :=
  match command with
  | "analyze" => do
    let arguments ←
      Arguments.read [configOption, { name := "output", letter := some 'o' }] true rest
    match arguments.others with
    | [document] =>
      some ⟨document, arguments.setting? "config", .analyze (arguments.setting? "output")⟩
    | _ => none
  | "sample" => do
    let arguments ← Arguments.read [configOption, seedOption, { name := "max-size" }] true rest
    let seed ← arguments.int? "seed"
    let maxSize ← arguments.positive? "max-size"
    match arguments.others with
    | [document, target] =>
      some ⟨document, arguments.setting? "config", .sample target seed maxSize⟩
    | _ => none
  | "pick" => do
    let arguments ←
      Arguments.read [configOption, seedOption, { name := "count", letter := some 'n' }] true rest
    let seed ← arguments.int? "seed"
    let count ← arguments.positive? "count"
    match arguments.others with
    | [document, path] =>
      some ⟨document, arguments.setting? "config", .pick path seed (count.getD 1)⟩
    | _ => none
  | _ => none

/-- The invocation that a command line stands for; none if it is not understood. -/
def Invocation.read (arguments : List String) : Option Invocation := do
  let main ← Arguments.read mainOptions false arguments
  match main.others with
  | command :: rest => readCommand command rest
  | [] => none

end RestCatalog.CommandLine
