/- Files that hold markup or comments. A file is read as UTF-8 without leniency; line breaks of any kind
read as newlines. -/
import DocComment.Files.Tree
import DocComment.Text.Utf8

namespace DocComment

set_option autoImplicit false

inductive FileFault where
  | missing
  | notFile
  | undecodable (fault : Utf8Fault)
  deriving DecidableEq, Repr

def FileFault.message (path : Path) : FileFault → Text
  | .missing => "File not found: ".toList ++ path.toText
  | .notFile => "Path is not a file: ".toList ++ path.toText
  | .undecodable fault => "Unable to read file as UTF-8: ".toList ++ fault.message

def decodeText (bytes : List Nat) : Except Utf8Fault Text :=
  (Utf8.decode bytes).map Text.plainNewlines

def readText : Option FileTree → Except FileFault Text
  | none => .error .missing
  | some (.directory _ _) => .error .notFile
  | some (.file bytes) => (decodeText bytes).mapError .undecodable

end DocComment
