/- Lines as the block parser sees them. A container that takes a mark off a line moves the start of the
line; the indentation is then counted from there. Tabs reach to the next column that is a multiple of
four. -/
import DocComment.Text.Blank

namespace DocComment.Markdown

set_option autoImplicit false

/-- The column after a character that begins at a column. -/
def nextColumn (column : Nat) (c : Char) : Nat :=
  if c = '\t' then column + (4 - column % 4) else column + 1

/-- The column after some characters that begin at a column. -/
def columnAfter (column : Nat) (t : Text) : Nat := t.foldl nextColumn column

/-- A line, and where its content begins for the container that is being read. -/
structure Line where
  /-- The whole line without its newline. -/
  text : Text
  /-- Whether a newline follows. -/
  terminated : Bool
  /-- How many characters belong to the marks of outer containers. -/
  start : Nat := 0
  /-- How many characters of indentation follow these. -/
  shift : Nat := 0
  /-- The width of the indentation in columns. It is negative on a line that continues a paragraph
  without the marks of its container. -/
  indent : Int := 0
  /-- The column at which the indentation begins. -/
  column : Nat := 0
  deriving DecidableEq, Repr

namespace Line

/-- A line outside all containers. -/
def ofText (terminated : Bool) (text : Text) : Line :=
  let blanks := text.takeWhile isIndent
  { text, terminated, shift := blanks.length, indent := columnAfter 0 blanks }

/-- The line after the last one. -/
def absent : Line := { text := [], terminated := false }

/-- The lines of a text. What follows the last newline is a line only if it has more than spaces and
tabs. -/
def ofPieces : List Text → List Line
  | [] => []
  | [last] => if last.all isIndent then [] else [ofText false last]
  | piece :: next :: pieces => ofText true piece :: ofPieces (next :: pieces)

/-- The line without marks and indentation. -/
def body (line : Line) : Text := line.text.drop (line.start + line.shift)

/-- Whether nothing but spaces and tabs is left of the line. -/
def isEmpty (line : Line) : Bool := line.body.isEmpty

/-- The line without marks, and without the part of its indentation that fills some columns. Of a tab
that reaches further, spaces are left. `width` columns have been removed, and `shift` more characters
count as indentation. -/
def dedent (columns : Int) (column : Nat) : Nat → Nat → Text → Text
  | width, _, [] => List.replicate (width - columns).toNat ' '
  | width, shift, c :: rest =>
    if (width : Int) < columns then
      if c = '\t' then dedent columns column (width + (4 - (width + column) % 4)) (shift - 1) rest
      else if c = ' ' ∨ 0 < shift then dedent columns column (width + 1) (shift - 1) rest
      else c :: rest
    else List.replicate (width - columns).toNat ' ' ++ c :: rest

/-- The line without marks and without some columns of indentation. -/
def content (line : Line) (columns : Int) : Text :=
  dedent columns line.column 0 line.shift (line.text.drop line.start)

end Line

def readLines (t : Text) : List Line := Line.ofPieces (Text.lines t)

end DocComment.Markdown
