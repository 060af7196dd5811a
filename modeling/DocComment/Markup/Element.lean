/- The tree as it is parsed: elements know the lines they were read from, and whether the paragraphs
of a tight list are to be shown without paragraph breaks. Conversion to markup nodes turns line numbers
into ranges of the source, levels and first numbers into integers, and hidden paragraphs into the
tightness of their list. -/
import DocComment.Markup.Node
import DocComment.Text.Integer

namespace DocComment

set_option autoImplicit false

/-- One element of a parsed document. -/
structure Element where
  kind : Kind
  /-- For a heading, a letter followed by its level. -/
  tag : Text := []
  /-- A paragraph or heading has one child, and the children of that are its inlines. -/
  children : List Element := []
  content : Text := []
  markup : Text := []
  info : Text := []
  attrs : Fields := []
  traits : Fields := []
  /-- The first line, counted from zero, and the line after the last one. -/
  span : Option (Nat × Nat) := none
  hidden : Bool := false
  deriving Inhabited, Repr

namespace Element

/-- The range of a block that was read from some lines of the source. It starts at the first character
that is not blank; where the text of its inlines is given, at the first occurrence of the first line of
that text. -/
def rangeOf (source : List Text) (span : Option (Nat × Nat)) (inlines : Option Text) :
    Option Range :=
  match span with
  | none => none
  | some (first, stop) =>
    match source[first]? with
    | none => none
    | some line =>
      let last := max (stop - 1) first
      let indentation := line.length - (Text.trimLeft line).length
      let offset :=
        match inlines with
        | none | some [] => indentation
        | some (c :: rest) =>
          (Text.offsetOf? ((Text.lines (c :: rest)).headD []) line).getD indentation
      some {
        start := { line := first + 1, column := offset + 1 }
        stop := { line := last + 1, column := ((source[last]?).getD []).length + 1 } }

def level (tag : Text) : Except IntegerFault Int :=
  let digits := tag.drop 1
  if !digits.isEmpty && digits.all isFigure then Text.toInteger digits else .ok 1

/-- The number that the attributes of an ordered list give to its first item. -/
def firstNumber (attrs : Fields) : Except IntegerFault Int :=
  match attrs.lookup "start".toList with
  | some (.int n) => .ok n
  | some (.str t) => Text.toInteger t
  | _ => .ok 1

/-- Whether no paragraph directly in an item of a list is shown as a paragraph. -/
def isTight (items : List Element) : Bool :=
  items.all fun item => item.children.all fun block => block.kind != .paragraph || block.hidden

def inlineAttrs (kind : Kind) (attrs : Fields) : Fields :=
  let title := ("title".toList, (attrs.lookup "title".toList).getD .null)
  let target := fun key => (key, (attrs.lookup key).getD (.str []))
  match kind with
  | .link => [target "href".toList, title]
  | .image => [target "src".toList, title]
  | _ => []

mutual

def toInline : Element → Node
  | ⟨kind, _, children, content, markup, info, attrs, _, _, _⟩ =>
    { kind, children := toInlines children, content, markup, info, attrs := inlineAttrs kind attrs }

def toInlines : List Element → List Node
  | [] => []
  | element :: elements => element.toInline :: toInlines elements

end

/-- A block of inlines: those of its one child. -/
def ofInlines (source : List Text) (kind : Kind) (traits : Fields) (children : List Element)
    (markup : Text) (span : Option (Nat × Nat)) : Node :=
  match children with
  | [] => { kind, markup, traits, range := rangeOf source span none }
  | inner :: _ =>
    { kind, children := toInlines inner.children, markup, traits,
      range := rangeOf source span (some inner.content) }

mutual

/-- A block as a markup node, given the lines of the source. -/
def toBlock (source : List Text) : Element → Except IntegerFault Node
  | ⟨kind, tag, children, content, markup, info, attrs, traits, span, _⟩ =>
    let range := rangeOf source span none
    match kind with
    | .paragraph => .ok (ofInlines source kind [] children markup span)
    | .heading => do
      let n ← level tag
      .ok (ofInlines source kind [("level".toList, .int n)] children markup span)
    | .bulletList => do
      let blocks ← toBlocks source children
      .ok { kind, children := blocks, markup, range,
            traits := [("tight".toList, .bool (isTight children))] }
    | .orderedList => do
      let n ← firstNumber attrs
      let blocks ← toBlocks source children
      .ok { kind, children := blocks, markup, range,
            attrs := [("start".toList, .int n)],
            traits := [("tight".toList, .bool (isTight children))] }
    | .fence | .codeBlock | .htmlBlock | .rule => .ok { kind, content, markup, info, range }
    | _ => do
      let blocks ← toBlocks source children
      .ok { kind, children := blocks, content, markup, info, traits, range }

def toBlocks (source : List Text) : List Element → Except IntegerFault (List Node)
  | [] => .ok []
  | element :: elements => do
    let block ← toBlock source element
    let blocks ← toBlocks source elements
    .ok (block :: blocks)

end

end Element

/-- The document that a root element stands for, given the text it was read from. -/
def Node.ofElement (root : Element) (source : Text) : Except IntegerFault Node := do
  let blocks ← Element.toBlocks (Text.lines (Text.plainNewlines source)) root.children
  .ok (Node.document blocks)

end DocComment
