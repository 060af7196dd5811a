/- Lines that end what stands before them: a paragraph, a link definition, the lines of a quote that
lack its mark, or a list. -/
import DocComment.Markdown.Command
import DocComment.Markdown.Leaf
import DocComment.Markdown.ListMark

namespace DocComment.Markdown

set_option autoImplicit false

namespace Quote

def starts (frame : Frame) (n : Nat) : Bool := !frame.isCode n && (frame.body n).head? == some '>'

end Quote

namespace Command

/-- Whether a command begins on a line, where commands are understood. -/
def starts (options : Options) (frame : Frame) (n : Nat) : Bool :=
  options.commands && (startsDescription frame n || startsDirective frame n)

end Command

/-- Whether a line ends the paragraph, definition or quote before it. -/
def interrupts (options : Options) (inParagraph : Bool) (frame : Frame) (n : Nat) : Bool :=
  Fence.starts frame n || Quote.starts frame n || Rule.starts frame n ||
    (ListMark.starts? inParagraph frame n).isSome || HtmlBlock.interrupts frame n ||
    Heading.starts frame n || Command.starts options frame n

def endsList (options : Options) (frame : Frame) (n : Nat) : Bool :=
  Fence.starts frame n || Quote.starts frame n || Rule.starts frame n ||
    Command.starts options frame n

end DocComment.Markdown
