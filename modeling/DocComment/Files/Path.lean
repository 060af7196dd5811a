/- Paths of files. A path is kept without empty parts and without parts that stay where they are, so two
spellings that differ only in these are one path. A part that goes up is kept, because what it stands for
depends on the files. -/
import DocComment.Text.Basic

namespace DocComment

set_option autoImplicit false

structure Path where
  /-- The slashes at the beginning: none, one, or exactly two. -/
  root : Text := []
  parts : List Text := []
  deriving DecidableEq, Repr

namespace Path

/-- The slashes that a path keeps at its beginning. Two are kept; more count as one. -/
def rootOf : Text → Text
  | '/' :: '/' :: '/' :: _ => ['/']
  | '/' :: '/' :: _ => ['/', '/']
  | '/' :: _ => ['/']
  | _ => []

/-- Whether a part leads anywhere. -/
def isPart (part : Text) : Bool := part != [] && part != ['.']

def ofText (t : Text) : Path := { root := rootOf t, parts := (Text.splitOn '/' t).filter isPart }

def join (parts : List Text) : Text := Text.joinWith ['/'] parts

/-- The text of a path. A path that leads nowhere is a dot. -/
def toText (p : Path) : Text :=
  match p.root ++ join p.parts with
  | [] => ['.']
  | t => t

def append (p : Path) (parts : List Text) : Path := { p with parts := p.parts ++ parts }

/-- The last part; empty if there is none. -/
def name (p : Path) : Text := p.parts.getLast?.getD []

/-- The ending of a name: from its last dot on, if that is neither its first nor its last character. -/
def suffix (name : Text) : Text :=
  match Text.cutAtLast? '.' name with
  | some (_ :: _, c :: tail) => '.' :: c :: tail
  | _ => []

end Path

end DocComment
