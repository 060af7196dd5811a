/- Quotes: lines that begin with an angle bracket, and lines without one that continue a paragraph of
the quote. Inside the quote the bracket and one column after it belong to the start of the line. -/
import DocComment.Markdown.Interrupt

namespace DocComment.Markdown.Quote

set_option autoImplicit false

/-- A line without the bracket that begins it. A space after the bracket is taken with it; of a tab,
one column. -/
def unmark (line : Line) : Line :=
  let pos := line.start + line.shift + 1
  let width := line.indent.toNat + 1
  let after := line.text.drop pos
  let (taken, extra) :=
    match after with
    | ' ' :: _ => (1, 0)
    | '\t' :: _ => if (line.column + width) % 4 = 3 then (1, 0) else (0, 1)
    | _ => (0, 0)
  let spaced :=
    match after with
    | c :: _ => isIndent c
    | [] => false
  let blanks := (after.drop taken).takeWhile isIndent
  let first := width + taken + line.column + extra
  { line with
    start := pos + taken
    shift := blanks.length
    indent := ((columnAfter first blanks - first : Nat) : Int)
    column := width + (if spaced then 1 else 0) }

/-- The lines of a quote, as they are seen inside it, from a line on, and how they end. -/
structure Extent where
  lines : List Line := []
  /-- Whether the line after the quote interrupts it. -/
  interrupted : Bool := false
  deriving Repr

/-- The lines of a quote among `count` lines from a line on, after a line that may have been empty. -/
def extent (options : Options) (frame : Frame) : Nat → Nat → Bool → Extent
  | 0, _, _ => {}
  | count + 1, n, lastEmpty =>
    let line := frame.line n
    if line.isEmpty then {}
    else if line.body.head? == some '>' && !frame.isOutdented n then
      let inner := unmark line
      let rest := extent options frame count (n + 1) inner.isEmpty
      { rest with lines := inner :: rest.lines }
    else if lastEmpty then {}
    else if interrupts options false frame n then { interrupted := true }
    else
      let rest := extent options frame count (n + 1) lastEmpty
      { rest with lines := { line with indent := -1 } :: rest.lines }

def innerFrame (frame : Frame) (start : Nat) (quote : Extent) : Frame :=
  let next := start + quote.lines.length
  let after := frame.lines.drop next
  let after :=
    if quote.interrupted then
      match after with
      | [] => []
      | line :: rest => { line with indent := line.indent - frame.indent } :: rest
    else after
  { frame with
    lines := frame.lines.take start ++ quote.lines ++ after
    indent := 0
    limit := if quote.interrupted then next else frame.limit
    depth := frame.depth + 1 }

/-- Reads a quote. It ends where the reading of its lines ends. -/
def read? (inner : Reader) (options : Options) (frame : Frame) (definitions : Definitions)
    (start stop : Nat) : Option Reading :=
  if starts frame start then
    let first := unmark (frame.line start)
    let rest := extent options frame (stop - (start + 1)) (start + 1) first.isEmpty
    let quote := { rest with lines := first :: rest.lines }
    let body := inner (innerFrame frame start quote) definitions start (start + quote.lines.length)
    some {
      elements := [
        { kind := .quote, tag := "blockquote".toList, markup := ['>'], children := body.elements
          span := some (start, body.stop) }]
      stop := body.stop
      definitions := body.definitions }
  else none

end DocComment.Markdown.Quote
