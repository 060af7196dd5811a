/- Notices: what the program reports while it works. Each has a level, the part of the program that
reports it, and its words. -/
import DocComment.Files.Source
import DocComment.Tally

namespace DocComment

set_option autoImplicit false

/-- How much a notice matters. -/
inductive Level where
  | debug
  | info
  | warning
  | error
  deriving DecidableEq, Repr

def Level.name : Level → Text
  | .debug => "DEBUG".toList
  | .info => "INFO".toList
  | .warning => "WARNING".toList
  | .error => "ERROR".toList

/-- Whether a notice of a level is shown even if the program is not asked to be verbose. -/
def Level.isSevere : Level → Bool
  | .debug | .info => false
  | .warning | .error => true

inductive Notice where
  /-- A document with some blocks was split into sections. -/
  | divided (blocks : Nat) (split : Split)
  /-- An item of a discussion was looked at. -/
  | item (note : Harvest.Note)
  /-- The tags were taken out of a discussion. -/
  | harvested (blocks kept consumed : Nat)
  /-- A comment has no tags. -/
  | noTags
  /-- The text of a file is parsed. -/
  | parsing (characters : Nat) (path : Path)
  /-- A text without a file is processed. -/
  | content (name : Text)
  | file (path : Path)
  | fileFailed (path : Path) (fault : FileFault)
  | directory (path : Path)
  | directoryDone (records failed : Nat)
  | unreadable (path : Path)
  /-- The settings name a section that does not exist. -/
  | unknownSection (name : Text)
  /-- The file on the command line could not be parsed. -/
  | parseFailed (path : Text)
  /-- The directory that is going to be scanned. -/
  | scanning (name : Text)
  | scanFailed (fault : DirectoryFault)
  | tallied (tally : Tally)
  | written (records : Nat) (path : Text)
  deriving Repr

namespace Notice

def level : Notice → Level
  | divided _ _ | item _ | harvested _ _ _ | noTags | parsing _ _ | content _ | file _ => .debug
  | directory _ | directoryDone _ _ | scanning _ | tallied _ | written _ _ => .info
  | fileFailed _ _ | unreadable _ | unknownSection _ => .warning
  | parseFailed _ | scanFailed _ => .error

/-- The name of the part of the program that reports. -/
def source : Notice → Text
  | divided _ _ => "src.doc_markup.section_splitter".toList
  | item .namelessEntry => "src.doc_markup.tag_extractor".toList
  | item (.unknownTag _) | harvested _ _ _ => "src.doc_markup.tag_rewriter".toList
  | noTags => "src.doc_markup.documentation".toList
  | parsing _ _ => "src.doc_markup.parser".toList
  | content _ | file _ | fileFailed _ _ | directory _ | directoryDone _ _ =>
    "src.doc_markup.processor".toList
  | unreadable _ => "src.doc_markup.scanner".toList
  | unknownSection _ => "src.cli.config".toList
  | parseFailed _ => "src.cli.commands.parse".toList
  | scanning _ | scanFailed _ | tallied _ | written _ _ => "src.cli.commands.scan".toList

def splitWords (split : Split) : Text :=
  let range := match split.discussion with
    | none => "None".toList
    | some (first, stop) =>
      "range(".toList ++ Text.ofNat first ++ ", ".toList ++ Text.ofNat stop ++ ")".toList
  "abstract=".toList ++ (if split.abstract.isSome then "True".toList else "False".toList) ++
    ", discussion=".toList ++ range

def countWords (counts : List (Text × Nat)) : Text :=
  ['{'] ++ Text.joinWith [',', ' ']
    (counts.map fun (key, n) => Text.quoted key ++ [':', ' '] ++ Text.ofNat n) ++ ['}']

def message : Notice → Text
  | divided blocks split =>
    "Split ".toList ++ Text.ofNat blocks ++ " blocks: ".toList ++ splitWords split
  | item .namelessEntry => "Skipping outline entry without a 'name:' prefix".toList
  | item (.unknownTag name) =>
    "'".toList ++ name ++ "' is not a known tag, keeping it as discussion".toList
  | harvested blocks kept consumed =>
    "Rewrote ".toList ++ Text.ofNat blocks ++ " discussion blocks: ".toList ++ Text.ofNat kept ++
      " kept, ".toList ++ Text.ofNat consumed ++ " tag blocks consumed".toList
  | noTags => "No documentation tags found".toList
  | parsing characters path =>
    "Parsing ".toList ++ Text.ofNat characters ++ " characters from ".toList ++ path.toText
  | content name => "Processing content for ".toList ++ name
  | file path => "Processing file: ".toList ++ path.toText
  | fileFailed path fault =>
    "Failed to parse file ".toList ++ path.toText ++ ": ".toList ++ fault.message path
  | directory path => "Starting documentation processing for directory: ".toList ++ path.toText
  | directoryDone records failed =>
    "Processing complete: ".toList ++ Text.ofNat records ++ " files processed, ".toList ++
      Text.ofNat failed ++ " files failed".toList
  | unreadable path => "Skipping unreadable directory: ".toList ++ path.toText
  | unknownSection name =>
    "Unknown section '".toList ++ name ++
      "' in DOC_MARKUP_PARSE_UP_TO, parsing to the end".toList
  | parseFailed path => "❌ Could not parse ".toList ++ path
  | scanning name => "📁 Documentation directory: ".toList ++ name
  | scanFailed fault => "❌ ".toList ++ fault.message
  | tallied tally =>
    "📊 Processed ".toList ++ Text.ofNat tally.files ++ " files, tags: ".toList ++
      countWords tally.counts
  | written records path =>
    "✅ Wrote ".toList ++ Text.ofNat records ++ " records to ".toList ++ path

def line (n : Notice) : Text := n.level.name ++ [' '] ++ n.source ++ [':', ' '] ++ n.message

end Notice

/-- A result, and what was reported on the way to it. -/
structure Reported (α : Type) where
  notices : List Notice
  result : α
  deriving Repr

end DocComment
