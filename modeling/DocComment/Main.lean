/- The program on the command line. The files that a run looks at are loaded before it and what it leaves
to be written is written after it, so that everything between is a function. -/
import DocComment.CommandLine.Run

namespace DocComment

set_option autoImplicit false

def bytesOf (bytes : ByteArray) : List Nat := bytes.toList.map UInt8.toNat

/-- Loads what stands at a path. Files whose names are not wanted are left empty. -/
partial def loadTree (wanted : Text → Bool) (name : String) : IO (Option FileTree) := do
  let resolved ← (IO.FS.realPath name).toBaseIO
  match resolved with
  | .error _ => return none
  | .ok path =>
    if ← path.isDir then
      match ← path.readDir.toBaseIO with
      | .error _ => return some (.directory false [])
      | .ok entries =>
        let loaded ← entries.toList.filterMapM fun entry => do
          let tree ← loadTree wanted entry.path.toString
          return tree.map fun tree => (entry.fileName.toList, tree)
        return some (.directory true loaded)
    else if wanted (Path.ofText name.toList).name then
      return some (.file (bytesOf (← IO.FS.readBinFile name)))
    else return some (.file [])

/-- Loads the file or directory that a task is about. -/
def loadTarget (task : CommandLine.Task) (settings : Settings) : IO (Option (Path × FileTree)) := do
  let (name, wanted) := match task with
    | .parse request => (request.path, fun _ => true)
    | .scan request =>
      (some (request.source settings),
        (CommandLine.ScanRequest.processor settings).scan.accepts)
  match name with
  | none => return none
  | some name =>
    let path := Path.ofText name
    let tree ← loadTree wanted (String.ofList path.toText)
    return tree.map fun tree => (path, tree)

/-- Reads all that is left of a stream. -/
partial def readRest (stream : IO.FS.Stream) (lines : List String) : IO String := do
  let line ← stream.getLine
  if line.isEmpty then return String.join lines.reverse
  readRest stream (line :: lines)

/-- The files, the environment and the input that a command line needs. -/
def loadWorld (words : List Text) : IO CommandLine.World := do
  match CommandLine.Invocation.ofWords words with
  | .error _ => return { files := fun _ => none, environment := [], input := [] }
  | .ok invocation =>
    let environment ← Settings.variableNames.filterMapM fun name => do
      let value ← IO.getEnv (String.ofList name)
      return value.map fun value => (name, value.toList)
    let config ← match invocation.config with
      | none => pure none
      | some name =>
        let path := Path.ofText name
        let tree ← loadTree (fun _ => true) (String.ofList path.toText)
        pure (tree.map fun tree => (path, tree))
    let bindings := CommandLine.readBindings
      (fun path => config.toList.lookup path) invocation.config
    let target ← match (Settings.load environment bindings).result with
      | .error _ => pure none
      | .ok settings => loadTarget invocation.task settings
    let input ← match invocation.task with
      | .parse { path := none, .. } => readRest (← IO.getStdin) []
      | _ => pure ""
    let loaded := target.toList ++ config.toList
    return { files := fun path => loaded.lookup path, environment, input := input.toList }

def report (notices : List Notice) : IO Unit :=
  notices.forM fun n => IO.eprintln (String.ofList n.line)

/-- Does what is left to do at the end of a run, and gives the exit code. -/
def conclude : CommandLine.Ending → IO UInt32
  | .exit code => return code.toUInt32
  | .misuse command misuse => do
    IO.eprint (String.ofList (CommandLine.complaint command misuse))
    return 2
  | .fault fault => do
    IO.eprintln (String.ofList fault.message)
    return 1
  | .write path content notices => do
    try
      IO.FS.writeFile (String.ofList path.toText) (String.ofList content)
      report notices
      return 0
    catch e =>
      IO.eprintln (toString e)
      return 1

end DocComment

open DocComment in
def main (arguments : List String) : IO UInt32 := do
  let words := arguments.map String.toList
  let outcome := CommandLine.run (← loadWorld words) words
  report outcome.notices
  IO.print (String.ofList outcome.output)
  conclude outcome.ending
