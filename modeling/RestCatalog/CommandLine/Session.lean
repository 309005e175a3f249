import RestCatalog.Catalog.Report
import RestCatalog.Choice.MersenneTwister
import RestCatalog.CommandLine.Arguments
import RestCatalog.Document.Yaml.Printer
import RestCatalog.OpenApi
import RestCatalog.Validation.ConfigFile

/-!
# Running a command

A command reads a configuration and an API description, builds the catalog and tells
about it.  Files are given by a function from names to contents, so that a run is a
value: what is printed, what is complained about and which file is written.
-/

namespace RestCatalog.CommandLine

open Document

/-- The files that can be read. -/
abbrev Files := String → Option ByteArray

/-- What can end a run early. -/
inductive Trouble where
  | config (error : Config.LoadError)
  | description (error : OpenApi.LoadError)
  | catalog (error : CatalogError)
deriving DecidableEq, Repr

namespace Trouble

/-- Whether a run reports the trouble itself; other trouble is passed on. -/
def isReported : Trouble → Bool
  | .config .notYaml => false
  | .config .badKey => false
  | .config _ => true
  | .description (.file .missing) => false
  | .description (.fault (.rejected _)) => true
  | .description (.fault _) => false
  | .description _ => true
  | .catalog (.homelessCall _) => false
  | .catalog _ => true

def message : Trouble → String
  | .config error => error.message
  | .description error => error.message
  | .catalog error => error.message

end Trouble

/-- What a run leaves behind. -/
structure Outcome where
  exitCode : Nat := 0
  output : List String := []
  complaint : Option String := none
  /-- The name and the content of the file that is written. -/
  written : Option (String × String) := none

/-- The outcome of a command line that is not understood. -/
def Outcome.usage : Outcome := { exitCode := 2 }

/-- The name of a file without the parts that lead nowhere. -/
def fileName (name : String) : String :=
  let parts := (Text.splitOn (· = '/') name.toList).filter fun part =>
    !part.isEmpty && part != ['.']
  let joined := "/".intercalate (parts.map String.ofList)
  if name.toList.head? = some '/' then "/" ++ joined
  else if joined.isEmpty then "."
  else joined

/-- The end of a run with trouble: reported behind the lines printed so far, or passed on. -/
def trouble (printed : List String) (trouble : Trouble) : Except Trouble Outcome :=
  if trouble.isReported then
    .ok { exitCode := 1, output := printed, complaint := some trouble.message }
  else .error trouble

/-- The configuration of a run; the default one if no file is named. -/
def loadConfig (files : Files) : Option String → Except Trouble Config
  | none => .ok .standard
  | some name =>
    match Config.load (fileName name) (files name) with
    | .ok config => .ok config
    | .error error => .error (.config error)

/-- The endpoints of a document under a configuration. -/
def loadEndpoints (files : Files) (invocation : Invocation) :
    Except Trouble (Config × List Endpoint) := do
  let config ← loadConfig files invocation.config
  match OpenApi.load (fileName invocation.document) (files invocation.document) with
  | .ok endpoints => return (config, endpoints)
  | .error error => throw (.description error)

/-- The lines of picking `count` templates of the resource at a path. -/
def pickLines {σ : Type} [ChoiceSource σ] (path : String) :
    (count number : Nat) → Catalog → Chooser σ → Except CatalogError (List String)
  | 0, _, _, _ => .ok []
  | count + 1, number, catalog, chooser =>
    match catalog.selectTemplate path (fun _ => true) chooser with
    | (.error error, _) => .error error
    | (.ok (catalog, selected), chooser) =>
      (pickLines path count (number + 1) catalog chooser).map fun lines =>
        (selected.map fun template => "  " ++ toString number ++ ". " ++ template.text).toList ++
          lines

/-- Does a task with the catalog; `printed` are the lines so far. -/
def perform (catalog : Catalog) (task : Task) (freshSeed : Int) (printed : List String) :
    Except Trouble Outcome :=
  let chooser (seed : Option Int) : Chooser MersenneTwister :=
    { source := .ofSeed ((seed <|> catalog.config.seed).getD freshSeed) }
  match task with
  | .analyze output =>
    let printed := printed ++ catalog.reportLines
    match output with
    | none => .ok { output := printed }
    | some name =>
      .ok
        { output := printed ++ ["", "Analysis saved to " ++ fileName name]
          written := some (fileName name, Yaml.render catalog.report) }
  | .sample target seed maxSize =>
    match (catalog.sampleCalls target (maxSize.map Int.ofNat) (chooser seed)).1 with
    | .error error => trouble printed (.catalog error)
    | .ok (status, calls) =>
      .ok { output := printed ++ ("Status: " ++ status.text) ::
        calls.zipIdx.map fun entry => entry.1.line (entry.2 + 1) }
  | .pick path seed count =>
    match pickLines path count 1 catalog (chooser seed) with
    | .error error => trouble printed (.catalog error)
    | .ok lines => .ok { output := printed ++ lines }

/-- Runs an invocation; `freshSeed` is the seed where none is set. -/
def run (files : Files) (invocation : Invocation) (freshSeed : Int) : Except Trouble Outcome :=
  let named := invocation.document :: invocation.config.toList
  if named.any fun name => (files name).isNone then .ok .usage
  else
    match loadEndpoints files invocation with
    | .error error => trouble [] error
    | .ok (config, endpoints) =>
      let printed := ["Found " ++ toString endpoints.length ++ " endpoints."]
      match Catalog.ofEndpoints endpoints config with
      | .error error => trouble printed (.catalog error)
      | .ok catalog => perform catalog invocation.task freshSeed printed

end RestCatalog.CommandLine
