/- Documents. The blocks are read first, since a link may refer to a definition that stands further
down; then every text of inlines is read with all definitions at hand. -/
import DocComment.Markdown.Block
import DocComment.Markdown.Inline

namespace DocComment.Markdown

set_option autoImplicit false

mutual

/-- An element with the inlines of every text in it. -/
def fillInlines (definitions : Definitions) : Element → Element
  | ⟨kind, tag, children, content, markup, info, attrs, traits, span, hidden⟩ =>
    let children :=
      if kind = inlineKind then Inline.read definitions content
      else fillAll definitions children
    ⟨kind, tag, children, content, markup, info, attrs, traits, span, hidden⟩

def fillAll (definitions : Definitions) : List Element → List Element
  | [] => []
  | element :: elements => fillInlines definitions element :: fillAll definitions elements

end

/-- A text as it is read: line breaks are newlines, and no character is U+0000. -/
def normalText (source : Text) : Text :=
  (Text.plainNewlines source).map fun c => if c.toNat = 0 then Char.ofNat 0xFFFD else c

def readRoot (options : Options) (source : Text) : Element :=
  let reading := Block.readDocument options (readLines (normalText source))
  { kind := .root, children := fillAll reading.definitions reading.elements }

/-- The document that a text stands for. -/
def read (options : Options) (source : Text) : Except IntegerFault Node :=
  Node.ofElement (readRoot options source) source

end DocComment.Markdown
