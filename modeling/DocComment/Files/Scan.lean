/- Looking for documentation files in a directory. The entries of a directory are visited in the order
of their names by code points, and a directory is searched where its name stands in that order. A
directory that cannot be read is noted and left out. -/
import DocComment.Files.Tree
import DocComment.Text.Case
import DocComment.Text.Blank

namespace DocComment

set_option autoImplicit false

structure ScanOptions where
  /-- Whether names that begin with a dot are left out, directories among them. -/
  skipHidden : Bool := true
  /-- Endings of names, as given. -/
  extensions : List Text := [".md".toList, ".markdown".toList, ".txt".toList]
  deriving DecidableEq, Repr

namespace ScanOptions

/-- The endings in the form in which they are compared. -/
def normalExtensions (options : ScanOptions) : List Text :=
  options.extensions.map fun ext => Text.lower (Text.trim ext)

def hides (options : ScanOptions) (name : Text) : Bool :=
  options.skipHidden && Text.startsWith name ['.']

def accepts (options : ScanOptions) (name : Text) : Bool :=
  options.normalExtensions.contains (Text.lower (Path.suffix name))

end ScanOptions

/-- What is met on the way through a directory. Ways begin below the directory. -/
inductive Visit where
  | file (way : List Text) (bytes : List Nat)
  | unreadable (way : List Text)
  deriving DecidableEq, Repr

namespace Scan

/-- Puts a named value in front of the first one whose name is not smaller. -/
def insert {α : Type} (name : Text) (value : α) : List (Text × α) → List (Text × α)
  | [] => [(name, value)]
  | (key, other) :: rest =>
    if key < name then (key, other) :: insert name value rest
    else (name, value) :: (key, other) :: rest

def sort {α : Type} : List (Text × α) → List (Text × α)
  | [] => []
  | (name, value) :: rest => insert name value (sort rest)

mutual

/-- What is met in a tree that is reached by a way. -/
def visits (options : ScanOptions) (way : List Text) : FileTree → List Visit
  | .file bytes => if options.accepts (way.getLast?.getD []) then [.file way bytes] else []
  | .directory readable entries =>
    if readable then (sort (entryVisits options way entries)).flatMap Prod.snd
    else [.unreadable way]

/-- What is met in each of the entries of a directory. -/
def entryVisits (options : ScanOptions) (way : List Text) :
    List (Text × FileTree) → List (Text × List Visit)
  | [] => []
  | (name, tree) :: entries =>
    (name, if options.hides name then [] else visits options (way ++ [name]) tree) ::
      entryVisits options way entries

end

end Scan

inductive ScanFault where
  | missing (root : Text)
  | notDirectory (root : Text)
  deriving DecidableEq, Repr

def ScanFault.message : ScanFault → Text
  | .missing root => "Directory not found: ".toList ++ root
  | .notDirectory root => "Path is not a directory: ".toList ++ root

/-- Searches what stands at a root, whose spelling appears in faults. -/
def scan (options : ScanOptions) (root : Text) : Option FileTree → Except ScanFault (List Visit)
  | none => .error (.missing root)
  | some (.file _) => .error (.notDirectory root)
  | some tree => .ok (Scan.visits options [] tree)

namespace Visit

/-- The paths of the files that were met, from the directory on. -/
def filePaths (visits : List Visit) : List Text :=
  visits.filterMap fun
    | .file way _ => some (Path.join way)
    | .unreadable _ => none

end Visit

end DocComment
