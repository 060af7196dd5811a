/- Lists. An item is read at the indentation of its content, with all lines up to the end of the
enclosing block: the reading stops by itself at a line that is indented less. A list is tight if no
empty line stands between the blocks of an item or between items. -/
import DocComment.Markdown.Interrupt

namespace DocComment.Markdown.Items

set_option autoImplicit false

/-- The first line of an item as it is seen inside it, and the indentation of the content of the item:
the columns up to the content, or one column after the mark if there is no content or if it is so far
away that it is code. -/
def unmark (line : Line) (mark : ListMark) : Line × Int :=
  let after := line.body.drop mark.length
  let blanks := after.takeWhile isIndent
  let first := line.indent.toNat + mark.length
  let stop := columnAfter (first + line.column) blanks - line.column
  let gap := if blanks.length = after.length ∨ 4 < stop - first then 1 else stop - first
  ({ line with shift := line.shift + mark.length + blanks.length, indent := stop },
    ((first + gap : Nat) : Int))

def innerFrame (frame : Frame) (n : Nat) (mark : ListMark) : Frame :=
  let (line, indent) := unmark (frame.line n) mark
  { frame with
    lines := frame.lines.set n line
    indent
    listIndent := frame.indent
    depth := frame.depth + 2 }

/-- Reads the blocks of an item. An item without content on its line, before an empty line, has no
blocks and takes both lines. -/
def readItem (inner : Reader) (frame : Frame) (definitions : Definitions) (n stop : Nat)
    (mark : ListMark) : Reading :=
  let inside := innerFrame frame n mark
  if inside.isEmpty n && frame.isEmpty (n + 1) then { stop := min (n + 2) stop, definitions }
  else inner inside definitions n stop

def element (mark : ListMark) (n : Nat) (item : Reading) : Element :=
  { kind := .listItem, tag := "li".toList, markup := [mark.sign], info := mark.digits.getD []
    children := item.elements, span := some (n, item.stop) }

/-- Whether an item of several lines ends with an empty one. -/
def endsEmpty (frame : Frame) (n : Nat) (item : Reading) : Bool :=
  1 < item.stop - n && frame.isEmpty (item.stop - 1)

/-- The mark of the item that continues a list on a line. -/
def nextMark? (options : Options) (frame : Frame) (mark : ListMark) (n stop : Nat) :
    Option ListMark :=
  if stop ≤ n || frame.isOutdented n || frame.isCode n || endsList options frame n then none
  else mark.next? (frame.body n)

/-- Reads the items of a list from a line on, at most `count` of them. `loose` says whether the item
before ended with an empty line. -/
def readItems (inner : Reader) (options : Options) (frame : Frame) :
    Nat → Definitions → Nat → Nat → ListMark → Bool → Reading
  | 0, definitions, n, _, _, _ => { stop := n, definitions }
  | count + 1, definitions, n, stop, mark, loose =>
    let item := readItem inner frame definitions n stop mark
    let tight := item.tight && !loose
    match nextMark? options frame mark item.stop stop with
    | none =>
      { elements := [element mark n item], stop := item.stop, definitions := item.definitions, tight }
    | some next =>
      let rest := readItems inner options frame count item.definitions item.stop stop next
        (endsEmpty frame n item)
      { rest with elements := element mark n item :: rest.elements, tight := tight && rest.tight }

/-- An item whose own paragraphs are shown without paragraph breaks. -/
def hideParagraphs (item : Element) : Element :=
  { item with children := item.children.map fun block =>
      if block.kind = .paragraph then { block with hidden := true } else block }

def read? (inner : Reader) (options : Options) (frame : Frame) (definitions : Definitions)
    (start stop : Nat) : Option Reading :=
  (ListMark.starts? false frame start).map fun mark =>
    let items := readItems inner options frame (stop - start) definitions start stop mark false
    { elements := [
        { kind := if mark.digits.isSome then .orderedList else .bulletList
          tag := if mark.digits.isSome then "ol".toList else "ul".toList
          attrs := if mark.digits.isSome && mark.number != 1 then
              [("start".toList, .int mark.number)]
            else []
          markup := [mark.sign]
          children := if items.tight then items.elements.map hideParagraphs else items.elements
          span := some (start, items.stop) }]
      stop := items.stop
      definitions := items.definitions }

end DocComment.Markdown.Items
