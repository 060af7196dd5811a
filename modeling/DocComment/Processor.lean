/- Processing: from a text, a file or a directory to records. A file that cannot be read is reported and
left out; a number that is too long ends the processing. -/
import DocComment.Comment
import DocComment.Markdown.Document
import DocComment.Notice

namespace DocComment

set_option autoImplicit false

/-- How texts and files are processed. -/
structure Processor where
  /-- The section after which the rest of a comment is not read. -/
  upTo : Section := .ending
  /-- Whether texts are comments, out of which the markup has to be taken. -/
  stripComments : Bool := true
  options : Markdown.Options := {}
  scan : ScanOptions := {}
  deriving DecidableEq, Repr

/-- What is reported on the way from a document to its model. -/
def Documentation.notices (upTo : Section) (document : Node) : List Notice :=
  let split := Split.ofBlocks upTo document.children
  let blocks := split.discussionBlocks document.children
  .divided document.children.length split ::
    (if upTo.includesDiscussion then
      (Harvest.notes blocks).map .item ++
        (match harvest blocks with
          | .error _ => []
          | .ok h =>
            .harvested blocks.length h.blocks.length h.consumed.length ::
              (if h.table.isEmpty then [.noTags] else []))
    else [])

namespace Processor

/-- The model of a document, if that could be read, with what is reported on the way. -/
def modelOf (p : Processor) :
    Except IntegerFault Node → Reported (Except IntegerFault Documentation)
  | .error fault => ⟨[], .error fault⟩
  | .ok document =>
    ⟨Documentation.notices p.upTo document, Documentation.ofDocument p.upTo document⟩

/-- The model of a markup text. -/
def model (p : Processor) (markup : Text) : Reported (Except IntegerFault Documentation) :=
  p.modelOf (Markdown.read p.options markup)

/-- The model of a comment, out of which the markup has to be taken. -/
def commentModel (p : Processor) (raw : Text) : Reported (Except IntegerFault Documentation) :=
  p.modelOf (Markdown.read p.options (Comment.strip raw))

/-- The record of a text under a name. -/
def content (p : Processor) (content name : Text) : Reported (Except IntegerFault Record) :=
  let model := if p.stripComments then p.commentModel content else p.model content
  ⟨.content name :: model.notices, model.result.map fun documentation => ⟨name, documentation⟩⟩

def markup (p : Processor) (content : Text) : Text :=
  if p.stripComments then Comment.strip content else content

structure Parsed where
  document : Node
  /-- The markup that was parsed. -/
  content : Text
  deriving Repr

def parseFile (p : Processor) (path : Path) (found : Option FileTree) :
    Reported (Except IntegerFault (Except FileFault Parsed)) :=
  match readText found with
  | .error fault => ⟨[], .ok (.error fault)⟩
  | .ok text =>
    let content := p.markup text
    ⟨[.parsing content.length path],
      (Markdown.read p.options content).map fun document => .ok { document, content }⟩

/-- The record of a file, or none if it cannot be read. The path appears in notices. -/
def file (p : Processor) (path : Path) (name : Text) (found : Option FileTree) :
    Reported (Except IntegerFault (Option Record)) :=
  let parsing := p.parseFile path found
  match parsing.result with
  | .error fault => ⟨.file path :: parsing.notices, .error fault⟩
  | .ok (.error fault) => ⟨.file path :: (parsing.notices ++ [.fileFailed path fault]), .ok none⟩
  | .ok (.ok parsed) =>
    ⟨.file path :: (parsing.notices ++ Documentation.notices p.upTo parsed.document),
      (Documentation.ofDocument p.upTo parsed.document).map fun documentation =>
        some ⟨name, documentation⟩⟩

/-- What comes of the files of a directory. -/
structure Batch where
  records : List Record := []
  /-- How many files could not be read. -/
  failed : Nat := 0
  deriving DecidableEq, Repr

/-- Processes what was met on the way through a directory. -/
def batch (p : Processor) (root : Path) : List Visit → Reported (Except IntegerFault Batch)
  | [] => ⟨[], .ok {}⟩
  | .unreadable way :: visits =>
    let rest := batch p root visits
    ⟨.unreadable (root.append way) :: rest.notices, rest.result⟩
  | .file way bytes :: visits =>
    let one := p.file (root.append way) (Path.join way) (some (.file bytes))
    match one.result with
    | .error fault => ⟨one.notices, .error fault⟩
    | .ok found =>
      let rest := batch p root visits
      ⟨one.notices ++ rest.notices,
        rest.result.map fun b =>
          match found with
          | none => { b with failed := b.failed + 1 }
          | some record => { b with records := record :: b.records }⟩

/-- The records of the documentation files in a directory. -/
def directory (p : Processor) (path : Path) (found : Option FileTree) :
    Reported (Except DirectoryFault (List Record)) :=
  match found with
  | none => ⟨[], .error (.missing path)⟩
  | some tree =>
    match DocComment.scan p.scan path.toText (some tree) with
    | .error fault => ⟨[.directory path], .error (.scan fault)⟩
    | .ok visits =>
      let batch := p.batch path visits
      match batch.result with
      | .error fault => ⟨.directory path :: batch.notices, .error (.number fault)⟩
      | .ok b =>
        ⟨.directory path :: batch.notices ++ [.directoryDone b.records.length b.failed],
          .ok b.records⟩

end Processor

end DocComment
