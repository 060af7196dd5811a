/- The commands of the program and what a command line asks for. One command prints the model of a file or
of the standard input, the other the models of all files in a directory. -/
import DocComment.CommandLine.Grammar
import DocComment.Section

namespace DocComment.CommandLine

set_option autoImplicit false

def helpSwitch : Switch := { purpose := .help, names := ["-h".toList, "--help".toList] }

def configSwitch : Switch := { purpose := .config, names := ["--config".toList], takesValue := true }

def verboseSwitch : Switch := { purpose := .verbose, names := ["-v".toList, "--verbose".toList] }

def sectionNames : List Text := Section.all.map fun s => Text.lower s.name

def program : Command :=
  { program := "doc-markup".toList
    switches := [helpSwitch]
    usage := "usage: doc-markup [-h] \x7bparse,scan\x7d ...\n".toList
    details := (
      "\n" ++
      "Extract abstracts, discussions and tags from documentation comments\n" ++
      "\n" ++
      "positional arguments:\n" ++
      "  \x7bparse,scan\x7d  Available commands\n" ++
      "    parse       Parse one documentation file (or stdin) to JSON\n" ++
      "    scan        Extract documentation from every file in a directory\n" ++
      "\n" ++
      "options:\n" ++
      "  -h, --help    show this help message and exit\n").toList }

def parseCommand : Command :=
  { program := "doc-markup parse".toList
    switches :=
      [helpSwitch,
       { purpose := .upTo, names := ["--up-to".toList], takesValue := true
         choices := sectionNames },
       { purpose := .keepComments, names := ["--no-strip-comments".toList] },
       { purpose := .plainMarkup, names := ["--no-doc-commands".toList] },
       configSwitch, verboseSwitch]
    usage := (
      "usage: doc-markup parse [-h] [--up-to \x7babstract,discussion,end\x7d]\n" ++
      "                        [--no-strip-comments] [--no-doc-commands]\n" ++
      "                        [--config CONFIG] [-v]\n" ++
      "                        [path]\n").toList
    details := (
      "\n" ++
      "positional arguments:\n" ++
      "  path                  File to parse; omit or use '-' for stdin\n" ++
      "\n" ++
      "options:\n" ++
      "  -h, --help            show this help message and exit\n" ++
      "  --up-to \x7babstract,discussion,end\x7d\n" ++
      "                        Ignore documentation past this section\n" ++
      "  --no-strip-comments   Parse the input as markup without removing /// or /**\n" ++
      "                        */\n" ++
      "  --no-doc-commands     Do not recognize \\param, \\returns and @Directive\n" ++
      "                        blocks\n" ++
      "  --config CONFIG       Path to .env configuration file\n" ++
      "  -v, --verbose         Show debug logging\n").toList }

def scanCommand : Command :=
  { program := "doc-markup scan".toList
    switches :=
      [helpSwitch, { purpose := .output, names := ["--output".toList], takesValue := true },
       configSwitch, verboseSwitch]
    usage := (
      "usage: doc-markup scan [-h] [--output OUTPUT] [--config CONFIG] [-v]\n" ++
      "                       [source_dir]\n").toList
    details := (
      "\n" ++
      "positional arguments:\n" ++
      "  source_dir       Directory to scan (default: from config)\n" ++
      "\n" ++
      "options:\n" ++
      "  -h, --help       show this help message and exit\n" ++
      "  --output OUTPUT  Write JSON to this file instead of stdout\n" ++
      "  --config CONFIG  Path to .env configuration file\n" ++
      "  -v, --verbose    Show progress and debug logging\n").toList }

structure ParseRequest where
  /-- The file to read; the standard input if there is none. -/
  path : Option Text
  upTo : Option Section
  keepComments : Bool
  plainMarkup : Bool
  deriving DecidableEq, Repr

structure ScanRequest where
  directory : Option Text
  output : Option Text
  deriving DecidableEq, Repr

/-- What the program has to do. -/
inductive Task where
  | parse (request : ParseRequest)
  | scan (request : ScanRequest)
  deriving DecidableEq, Repr

/-- A command line that asks for something. -/
structure Invocation where
  task : Task
  config : Option Text
  verbose : Bool
  deriving DecidableEq, Repr

namespace Reading

/-- The value of an option; the last one counts. -/
def value? (r : Reading) (purpose : Purpose) : Option Text := r.used.reverse.lookup purpose

def uses (r : Reading) (purpose : Purpose) : Bool := (r.value? purpose).isSome

end Reading

def nonEmpty (t : Option Text) : Option Text := t.filter fun t => !t.isEmpty

def Task.ofReading (r : Reading) (isParse : Bool) : Task :=
  if isParse then
    .parse
      { path := r.argument.filter fun path => path != ['-']
        upTo := (r.value? .upTo).bind Section.ofName?
        keepComments := r.uses .keepComments
        plainMarkup := r.uses .plainMarkup }
  else .scan { directory := nonEmpty r.argument, output := nonEmpty (r.value? .output) }

namespace Invocation

/-- What the words of a command line ask for. A program that is called without a command shows its
help. -/
def ofWords (words : List Text) : Except Stop Invocation := do
  let classified ← program.refuse (program.classifyAll words)
  let opening ← program.readOpening classified
  match opening.command with
  | none =>
    if opening.extras.isEmpty then .error (.help program)
    else .error (.misuse program (.unrecognized opening.extras))
  | some (name, rest) =>
    let isParse := name == "parse".toList
    if !isParse && name != "scan".toList then
      .error (.misuse program
        (.invalidChoice "command".toList name ["parse".toList, "scan".toList]))
    else
      let reading ← (if isParse then parseCommand else scanCommand).read rest
      let extras := opening.extras ++ reading.extras
      if extras.isEmpty then
        .ok
          { task := Task.ofReading reading isParse
            config := nonEmpty (reading.value? .config)
            verbose := reading.uses .verbose }
      else .error (.misuse program (.unrecognized extras))

end Invocation

end DocComment.CommandLine
