/- The first line of a tag, `name: content`. The colon is looked for in the plain text that leads the
line; escapes and entities belong to that text, but a colon written as one of them does not separate.
The ranges of name and content follow from what is written before the colon. -/
import DocComment.Markup.Node
import DocComment.Text.Blank

namespace DocComment

set_option autoImplicit false

/-- A line that was cut at its first colon. -/
structure NameLine where
  name : Text
  nameRange : Option Range
  /-- The rest of the line as a paragraph. -/
  content : Node
  deriving Repr

namespace NameLine

/-- The plain text before the first colon of a line, and what follows it. -/
structure Cut where
  /-- The text before the colon, with escapes and entities read. -/
  before : Text
  /-- How many characters are written before the colon. -/
  written : Nat
  /-- The text after the colon in the inline that holds it. -/
  after : Text
  /-- The inlines after that one. -/
  rest : List Node
  deriving Repr

/-- How many characters an escape or an entity takes in the source. -/
def writtenLength (special : Node) : Nat :=
  (if special.markup.isEmpty then special.content else special.markup).length

/-- Cuts inlines at their first colon, if plain text leads up to one. -/
def cut? : List Node → Option Cut
  | [] => none
  | node :: rest =>
    match node.kind with
    | .special =>
      (cut? rest).map fun cut =>
        { cut with before := node.content ++ cut.before, written := writtenLength node + cut.written }
    | .text =>
      match Text.cutAt? ':' node.content with
      | some (before, after) => some { before, written := before.length, after, rest }
      | none =>
        (cut? rest).map fun cut =>
          { cut with
            before := node.content ++ cut.before, written := node.content.length + cut.written }
    | _ => none

/-- A range on the first line of another one, from an offset to an offset. -/
def nameRangeIn (line : Range) (first stop : Int) : Range :=
  { start := { line := line.start.line, column := line.start.column + first }
    stop := { line := line.start.line, column := line.start.column + stop } }

/-- What is left of a range from an offset on its first line. -/
def contentRangeIn (line : Range) (first : Int) : Range :=
  { start := { line := line.start.line, column := line.start.column + first }, stop := line.stop }

def isBreak (node : Node) : Bool :=
  match node.kind with
  | .softBreak | .hardBreak => true
  | _ => false

/-- The inlines after the colon. If nothing but spaces follows it on its line, the content starts on
the next one. -/
def contentInlines (remainder : Text) (rest : List Node) : List Node :=
  if remainder.isEmpty then rest.dropWhile isBreak else Node.plain remainder :: rest

/-- The name and the content of a paragraph that is a tag line. -/
def ofParagraph? (paragraph : Node) : Option NameLine :=
  match cut? paragraph.children with
  | none => none
  | some cut =>
    let name := Text.trim cut.before
    if name.isEmpty then none
    else
      let remainder := cut.after.dropWhile (· == ' ')
      let leading := cut.before.length - (Text.trimLeft cut.before).length
      let trailing := cut.before.length - (Text.trimRight cut.before).length
      let skipped := 1 + cut.after.length - remainder.length
      some {
        name
        nameRange := paragraph.range.map fun line =>
          nameRangeIn line leading ((cut.written : Int) - trailing)
        content := Node.paragraph (contentInlines remainder cut.rest)
          (paragraph.range.map fun line => contentRangeIn line (cut.written + skipped : Nat)) }

end NameLine

end DocComment
