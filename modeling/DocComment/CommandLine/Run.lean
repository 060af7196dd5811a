/- Running the program: from a command line, the files, the environment and the standard input to what is
printed, reported and written. -/
import DocComment.CommandLine.Invocation
import DocComment.Settings

namespace DocComment.CommandLine

set_option autoImplicit false

/-- What the program finds when it is started. -/
structure World where
  files : Path → Option FileTree
  environment : Environment
  input : Text

inductive Ending where
  | exit (code : Nat)
  /-- The command line was refused. -/
  | misuse (command : Command) (misuse : Misuse)
  /-- A number is too long or no number at all. -/
  | fault (fault : IntegerFault)
  /-- A file remains to be written; the notices are for the time after that. -/
  | write (path : Path) (content : Text) (notices : List Notice)
  deriving Repr

structure Outcome where
  output : Text := []
  notices : List Notice := []
  ending : Ending := .exit 0
  deriving Repr

def printed (settings : Settings) (value : Json) : Text := Json.print settings.layout value ++ ['\n']

namespace ParseRequest

def processor (r : ParseRequest) (settings : Settings) : Processor :=
  { upTo := r.upTo.getD settings.upTo
    stripComments := !r.keepComments && settings.stripComments
    options := { commands := !r.plainMarkup && settings.commands } }

def record (r : ParseRequest) (world : World) (settings : Settings) :
    Reported (Except IntegerFault (Option Record)) :=
  let processor := r.processor settings
  match r.path with
  | none =>
    let done := processor.content world.input "<stdin>".toList
    ⟨done.notices, done.result.map some⟩
  | some path =>
    let path := Path.ofText path
    processor.file path path.name (world.files path)

def run (r : ParseRequest) (world : World) (settings : Settings) : Outcome :=
  let done := r.record world settings
  match done.result with
  | .error fault => { notices := done.notices, ending := .fault fault }
  | .ok none =>
    { notices := done.notices ++ [.parseFailed (r.path.getD [])], ending := .exit 1 }
  | .ok (some record) =>
    { notices := done.notices, output := printed settings record.documentation.toJson }

end ParseRequest

namespace ScanRequest

def source (r : ScanRequest) (settings : Settings) : Text :=
  r.directory.getD settings.sourceDirectory

def processor (settings : Settings) : Processor :=
  { upTo := settings.upTo
    stripComments := settings.stripComments
    options := { commands := settings.commands }
    scan := { skipHidden := settings.skipHidden, extensions := settings.extensions } }

def run (r : ScanRequest) (world : World) (settings : Settings) : Outcome :=
  let source := r.source settings
  let path := Path.ofText source
  let done := (processor settings).directory path (world.files path)
  let begun := .scanning source :: done.notices
  match done.result with
  | .error fault => { notices := begun ++ [.scanFailed fault], ending := .exit 1 }
  | .ok records =>
    let tallied := match Tally.ofRecords records with
      | .ok tally => [.tallied tally]
      | .error _ => []
    let text := printed settings
      (.obj (records.map fun record => (record.source, record.documentation.toJson)))
    match r.output with
    | none => { notices := begun ++ tallied, output := text }
    | some output =>
      { notices := begun ++ tallied
        ending := .write (Path.ofText output) text [.written records.length output] }

end ScanRequest

/-- The assignments in a file of settings. A file that does not exist has none. -/
def readBindings (files : Path → Option FileTree) : Option Text → List EnvFile.Binding
  | none => []
  | some path =>
    match readText (files (Path.ofText path)) with
    | .ok text => EnvFile.bindings text
    | .error _ => []

def Invocation.run (i : Invocation) (world : World) : Outcome :=
  let loaded := Settings.load world.environment (readBindings world.files i.config)
  match loaded.result with
  | .error fault => { notices := loaded.notices, ending := .fault fault }
  | .ok settings =>
    let outcome := match i.task with
      | .parse request => request.run world settings
      | .scan request => request.run world settings
    { outcome with notices := loaded.notices ++ outcome.notices }

def shown (verbose : Bool) (notices : List Notice) : List Notice :=
  notices.filter fun n => verbose || n.level.isSevere

def Outcome.shown (verbose : Bool) (outcome : Outcome) : Outcome :=
  { outcome with
    notices := CommandLine.shown verbose outcome.notices
    ending := match outcome.ending with
      | .write path content notices => .write path content (CommandLine.shown verbose notices)
      | ending => ending }

def run (world : World) (words : List Text) : Outcome :=
  match Invocation.ofWords words with
  | .error (.help command) => { output := command.help }
  | .error (.misuse command misuse) => { ending := .misuse command misuse }
  | .ok invocation => (invocation.run world).shown invocation.verbose

/-- What is printed if a command line is refused. -/
def complaint (command : Command) (misuse : Misuse) : Text :=
  command.usage ++ command.program ++ ": error: ".toList ++ misuse.message ++ ['\n']

end DocComment.CommandLine
