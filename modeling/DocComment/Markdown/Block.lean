/- Reading blocks: the order in which the kinds of block are tried, and the loop over the lines of a
container. Nesting is bounded, since every container adds to the depth and a reader at the greatest depth
skips its lines. -/
import DocComment.Markdown.Definition
import DocComment.Markdown.Items
import DocComment.Markdown.Quote

namespace DocComment.Markdown

set_option autoImplicit false

namespace Block

/-- Reads one block, which begins on a line with content. -/
def read (inner : Reader) (options : Options) (frame : Frame) (definitions : Definitions)
    (start stop : Nat) : Reading :=
  (CodeBlock.read? frame definitions start stop <|>
    Fence.read? frame definitions start stop <|>
    Quote.read? inner options frame definitions start stop <|>
    Rule.read? frame definitions start <|>
    Items.read? inner options frame definitions start stop <|>
    Definition.read? options frame definitions start <|>
    HtmlBlock.read? frame definitions start stop <|>
    Heading.read? frame definitions start <|>
    Underline.read? options frame definitions start stop <|>
    Command.read? inner options frame definitions start stop).getD
      (Paragraph.read options frame definitions start)

/-- Reads the blocks of a container from a line on, at most `count` of them. `spaced` says whether an
empty line was met. -/
def readFrom (inner : Reader) (options : Options) (frame : Frame) :
    Nat → Definitions → Nat → Nat → Bool → Bool → Reading
  | 0, definitions, n, _, _, tight => { stop := n, definitions, tight }
  | count + 1, definitions, n, stop, spaced, tight =>
    if stop ≤ n then { stop := n, definitions, tight }
    else
      let n := frame.skipEmpty n
      if stop ≤ n || frame.isOutdented n then { stop := n, definitions, tight }
      else if maxDepth ≤ frame.depth then { stop, definitions, tight }
      else
        let block := read inner options frame definitions n stop
        let next := block.stop
        let emptyBefore := spaced || (next - 1 < stop && frame.isEmpty (next - 1))
        let emptyHere := next < stop && frame.isEmpty next
        let rest := readFrom inner options frame count block.definitions
          (if emptyHere then next + 1 else next) stop (emptyBefore || emptyHere) (!spaced)
        { rest with elements := block.elements ++ rest.elements }

/-- Reads the blocks of a container, with containers nested at most `fuel` deep. -/
def readBlocks (options : Options) : Nat → Reader
  | 0 => fun _ definitions _ stop => { stop, definitions }
  | fuel + 1 => fun frame definitions start stop =>
    readFrom (readBlocks options fuel) options frame (stop - start) definitions start stop false true

def readDocument (options : Options) (lines : List Line) : Reading :=
  readBlocks options (maxDepth + 1) { lines, limit := lines.length } [] 0 lines.length

end Block

end DocComment.Markdown
