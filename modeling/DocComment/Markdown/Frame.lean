/- The frame in which blocks are read: the lines as the innermost container sees them, and the bounds
that the containers set. -/
import DocComment.Markdown.Line
import DocComment.Markdown.Target
import DocComment.Markup.Element

namespace DocComment.Markdown

set_option autoImplicit false

/-- What is understood beside plain Markdown. -/
structure Options where
  /-- Commands for parameters and results, and directives. -/
  commands : Bool := true
  deriving DecidableEq, Repr

/-- The lines of a document and the container that is being read. -/
structure Frame where
  lines : List Line
  /-- The columns of indentation that the content of the container has. -/
  indent : Int := 0
  /-- The indentation of the innermost list; negative outside lists. -/
  listIndent : Int := -1
  /-- The line before which paragraphs end. -/
  limit : Nat
  /-- How many elements are open. -/
  depth : Nat := 0
  deriving Repr

/-- The most elements that are open at a time. Deeper content is dropped. -/
def maxDepth : Nat := 20

namespace Frame

def line (frame : Frame) (n : Nat) : Line := (frame.lines[n]?).getD .absent

def isEmpty (frame : Frame) (n : Nat) : Bool := (frame.line n).isEmpty

/-- Whether a line is indented so far that it can be code. -/
def isCode (frame : Frame) (n : Nat) : Bool := 4 ≤ (frame.line n).indent - frame.indent

/-- Whether a line is indented less than the content of the container. -/
def isOutdented (frame : Frame) (n : Nat) : Bool := (frame.line n).indent < frame.indent

def body (frame : Frame) (n : Nat) : Text := (frame.line n).body

/-- The first line with content among `count` lines from a line on, or the line after them. -/
def skipEmptyUpTo (frame : Frame) : Nat → Nat → Nat
  | 0, n => n
  | count + 1, n => if frame.isEmpty n then skipEmptyUpTo frame count (n + 1) else n

/-- The first line with content from a line on, within the limit. -/
def skipEmpty (frame : Frame) (n : Nat) : Nat := frame.skipEmptyUpTo (frame.limit - n) n

/-- The numbers of the lines from one up to another. -/
def range (first stop : Nat) : List Nat := (List.range (stop - first)).map (first + ·)

/-- Lines without some columns of indentation, with newlines between them. -/
def joined (frame : Frame) (first stop : Nat) (columns : Int) : Text :=
  Text.unlines ((range first stop).map fun n => (frame.line n).content columns)

/-- Lines without some columns of indentation, each with its newline. -/
def verbatim (frame : Frame) (first stop : Nat) (columns : Int) : Text :=
  (range first stop).flatMap fun n =>
    let line := frame.line n
    line.content columns ++ (if line.terminated then ['\n'] else [])

end Frame

/-- What was read from some lines. -/
structure Reading where
  elements : List Element := []
  /-- The line after the last one that was read. -/
  stop : Nat
  definitions : Definitions
  /-- Whether no empty line separates the blocks. -/
  tight : Bool := true
  deriving Repr

/-- Reads blocks from one line up to another. -/
abbrev Reader := Frame → Definitions → Nat → Nat → Reading

/-- The kind of the element that holds the text of a paragraph or heading. -/
def inlineKind : Kind := .other "inline".toList

def inlineElement (content : Text) (first stop : Nat) : Element :=
  { kind := inlineKind, content, span := some (first, stop) }

def paragraphElement (content : Text) (first stop : Nat) : Element :=
  { kind := .paragraph, tag := ['p'], children := [inlineElement content first stop],
    span := some (first, stop) }

end DocComment.Markdown
