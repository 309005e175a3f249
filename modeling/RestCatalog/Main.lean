import RestCatalog.CommandLine.Session

/-!
# The program

Reads the files that a command line names, runs the command and prints its outcome.
-/

namespace RestCatalog.CommandLine

/-- The content of a file, if it can be read. -/
def readFile? (name : String) : IO (Option ByteArray) := do
  try
    return some (← IO.FS.readBinFile name)
  catch _ => return none

/-- Writes a file, with the directories above it. -/
def writeFile (name content : String) : IO Unit := do
  let parts := Text.splitOn (· = '/') name.toList
  let directory := "/".intercalate (parts.dropLast.map String.ofList)
  if !directory.isEmpty then IO.FS.createDirAll directory
  IO.FS.writeFile name content

end RestCatalog.CommandLine

open RestCatalog CommandLine in
def main (arguments : List String) : IO UInt32 := do
  match Invocation.read arguments with
  | none =>
    IO.eprintln "Usage: [-v] analyze | sample | pick DOCUMENT [ARGUMENT] [OPTIONS]"
    return 2
  | some invocation =>
    let names := invocation.document :: invocation.config.toList
    let contents ← names.mapM fun name => do return (name, ← readFile? name)
    let files : Files := fun name => (contents.find? fun entry => entry.1 = name).bind (·.2)
    let freshSeed ← IO.rand 0 0x7fffffff
    match run files invocation freshSeed with
    | .error trouble =>
      IO.eprintln ("Error: " ++ trouble.message)
      return 1
    | .ok outcome =>
      if let some (name, content) := outcome.written then writeFile name content
      outcome.output.forM fun line => IO.println line
      if let some complaint := outcome.complaint then IO.eprintln ("Error: " ++ complaint)
      return UInt32.ofNat outcome.exitCode
