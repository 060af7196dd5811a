/- Paragraphs, headings that are underlined, and link definitions. They are read line by line up to an
empty line or a line that interrupts them; a line that is indented like code, or that lacks the marks of
its quote, always goes on. -/
import DocComment.Markdown.Interrupt

namespace DocComment.Markdown

set_option autoImplicit false

namespace Paragraph

/-- Whether a line continues a paragraph whatever it says. -/
def continues (frame : Frame) (n : Nat) : Bool := frame.isCode n || (frame.line n).indent < 0

/-- The line after a paragraph, among `count` lines from a line on. -/
def findEnd (options : Options) (frame : Frame) : Nat → Nat → Nat
  | 0, n => n
  | count + 1, n =>
    if frame.isEmpty n then n
    else if continues frame n then findEnd options frame count (n + 1)
    else if interrupts options true frame n then n
    else findEnd options frame count (n + 1)

def content (frame : Frame) (start stop : Nat) : Text :=
  Text.trim (frame.joined start stop frame.indent)

/-- Reads a paragraph. It may go on past the lines of its container, up to the limit. -/
def read (options : Options) (frame : Frame) (definitions : Definitions) (start : Nat) : Reading :=
  let stop := findEnd options frame (frame.limit - (start + 1)) (start + 1)
  { elements := [paragraphElement (content frame start stop) start stop], stop, definitions }

end Paragraph

namespace Underline

def mark? (body : Text) : Option Char :=
  match body with
  | [] => none
  | mark :: _ =>
    if (mark == '=' || mark == '-') && (body.dropWhile (· == mark)).all isIndent then some mark
    else none

/-- The line that underlines the lines before it, and its mark, among `count` lines from a line on. -/
def find? (options : Options) (frame : Frame) : Nat → Nat → Option (Nat × Char)
  | 0, _ => none
  | count + 1, n =>
    if frame.isEmpty n then none
    else if frame.isCode n then find? options frame count (n + 1)
    else
      match if frame.isOutdented n then none else mark? (frame.body n) with
      | some mark => some (n, mark)
      | none =>
        if (frame.line n).indent < 0 then find? options frame count (n + 1)
        else if interrupts options true frame n then none
        else find? options frame count (n + 1)

def read? (options : Options) (frame : Frame) (definitions : Definitions) (start stop : Nat) :
    Option Reading :=
  if frame.isCode start then none
  else
    (find? options frame (stop - (start + 1)) (start + 1)).map fun (n, mark) =>
      { elements := [
          Heading.element (if mark = '=' then 1 else 2) (Paragraph.content frame start n) [mark]
            start n (n + 1)]
        stop := n + 1
        definitions }

end Underline

end DocComment.Markdown
