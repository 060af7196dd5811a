/- Records of processed files: the name under which a comment was found, and its model. -/
import DocComment.Documentation
import DocComment.Files.Scan

namespace DocComment

set_option autoImplicit false

/-- The model of a documentation comment and the name of its source. -/
structure Record where
  source : Text
  documentation : Documentation
  deriving DecidableEq, Repr

def Record.toJson (r : Record) : Json :=
  .obj [("source_file".toList, .str r.source), ("documentation".toList, r.documentation.toJson)]

inductive DirectoryFault where
  | missing (path : Path)
  | scan (fault : ScanFault)
  /-- A number in one of the files is too long. -/
  | number (fault : IntegerFault)
  deriving DecidableEq, Repr

def DirectoryFault.message : DirectoryFault → Text
  | .missing path => "Directory does not exist: ".toList ++ path.toText
  | .scan fault => fault.message
  | .number fault => fault.message

end DocComment
