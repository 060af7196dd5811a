/- Trees of files. A directory lists its entries by name in any order; one that cannot be read keeps its
entries to itself. Going up from a directory leads to the one it was entered from. -/
import DocComment.Files.Path
import DocComment.Text.Quoted

namespace DocComment

set_option autoImplicit false

/-- A file with its bytes, or a directory. -/
inductive FileTree where
  | file (bytes : List Nat)
  | directory (readable : Bool) (entries : List (Text × FileTree))
  deriving Inhabited, Repr

namespace FileTree

def parent : Text := ['.', '.']

/-- What stands at the end of a way through a tree, given the directories above. -/
def follow : List FileTree → FileTree → List Text → Option FileTree
  | _, here, [] => some here
  | _, .file _, _ :: _ => none
  | above, .directory readable entries, part :: parts =>
    if part = parent then
      match above with
      | [] => none
      | up :: above => follow above up parts
    else
      match entries.lookup part with
      | none => none
      | some next => follow (.directory readable entries :: above) next parts

/-- What stands at a path. A tree knows nothing of paths that begin with a slash. -/
def find? (tree : FileTree) (path : Path) : Option FileTree :=
  if path.root.isEmpty then follow [] tree path.parts else none

/-- Entries with the one of a name replaced, or with a new one at the end. -/
def setEntry (name : Text) (entry : FileTree) : List (Text × FileTree) → List (Text × FileTree)
  | [] => [(name, entry)]
  | (key, old) :: entries =>
    if key = name then (name, entry) :: entries else (key, old) :: setEntry name entry entries

/-- The tree with something put at the end of a way that does not go up. Directories on the way are made
as they are needed; a file on the way gives place to a directory. -/
def put (entry : FileTree) : List Text → FileTree → FileTree
  | [], _ => entry
  | part :: parts, tree =>
    let (readable, entries) :=
      match tree with
      | .file _ => (true, [])
      | .directory readable entries => (readable, entries)
    .directory readable
      (setEntry part (put entry parts ((entries.lookup part).getD (.directory true []))) entries)

def empty : FileTree := .directory true []

inductive WriteFault where
  /-- Its directory does not exist. -/
  | missing
  /-- Something above it is a file. -/
  | notDirectory
  /-- It is a directory. -/
  | isDirectory
  deriving DecidableEq, Repr

def WriteFault.message (path : Path) : WriteFault → Text
  | .missing => "[Errno 2] No such file or directory: ".toList ++ Text.quoted path.toText
  | .notDirectory => "[Errno 20] Not a directory: ".toList ++ Text.quoted path.toText
  | .isDirectory => "[Errno 21] Is a directory: ".toList ++ Text.quoted path.toText

/-- Whether some beginning of a way leads to a file. -/
def meetsFile (tree : FileTree) (parts : List Text) : Bool :=
  (List.range parts.length).any fun n =>
    match follow [] tree (parts.take n) with
    | some (.file _) => true
    | _ => false

/-- The same way without the parts that go up, given the way so far in reverse. -/
def straighten : List Text → List Text → List Text
  | done, [] => done.reverse
  | done, part :: parts =>
    if part = parent then straighten (done.drop 1) parts else straighten (part :: done) parts

/-- The tree after a file was written at a path. -/
def write (tree : FileTree) (path : Path) (bytes : List Nat) : Except WriteFault FileTree :=
  match tree.find? path with
  | some (.directory _ _) => .error .isDirectory
  | some (.file _) => .ok (put (.file bytes) (straighten [] path.parts) tree)
  | none =>
    match tree.find? { path with parts := path.parts.dropLast } with
    | some (.directory _ _) =>
      if path.name = parent then .error .isDirectory
      else .ok (put (.file bytes) (straighten [] path.parts) tree)
    | some (.file _) => .error .notDirectory
    | none => .error (if meetsFile tree path.parts then .notDirectory else .missing)

end FileTree

end DocComment
