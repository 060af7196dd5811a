/- Kinds of nodes of a markup tree. The kinds that the library gives a meaning to have constructors of
their own; every other name is a kind too, and is carried along. -/
import DocComment.Text.Basic

namespace DocComment

set_option autoImplicit false

inductive Kind where
  | root
  | paragraph
  | heading
  | bulletList
  | orderedList
  | listItem
  | quote
  /-- Code between fences. -/
  | fence
  /-- Indented code. -/
  | codeBlock
  | htmlBlock
  /-- A thematic break. -/
  | rule
  /-- A block `@Name(arguments)`, possibly with a body. -/
  | directive
  /-- A block that describes one parameter. -/
  | paramCommand
  /-- A block that describes a result. -/
  | returnsCommand
  | text
  /-- A character written as a backslash escape or an entity. -/
  | special
  | softBreak
  | hardBreak
  | code
  | emphasis
  | strong
  | link
  | image
  | html
  | other (name : Text)
  deriving DecidableEq, Inhabited, Repr

namespace Kind

/-- The kinds that have a meaning, each with its name. -/
def table : List (Text × Kind) :=
  [("root".toList, root), ("paragraph".toList, paragraph), ("heading".toList, heading),
   ("bullet_list".toList, bulletList), ("ordered_list".toList, orderedList),
   ("list_item".toList, listItem), ("blockquote".toList, quote), ("fence".toList, fence),
   ("code_block".toList, codeBlock), ("html_block".toList, htmlBlock), ("hr".toList, rule),
   ("directive".toList, directive), ("doxygen_param".toList, paramCommand),
   ("doxygen_returns".toList, returnsCommand), ("text".toList, text),
   ("text_special".toList, special), ("softbreak".toList, softBreak),
   ("hardbreak".toList, hardBreak), ("code_inline".toList, code), ("em".toList, emphasis),
   ("strong".toList, strong), ("link".toList, link), ("image".toList, image),
   ("html_inline".toList, html)]

def ofName (name : Text) : Kind := (table.lookup name).getD (other name)

def name (kind : Kind) : Text :=
  match kind with
  | other name => name
  | kind => ((table.find? fun row => row.2 == kind).map Prod.fst).getD []

/-- Whether the children of a node are inlines rather than blocks. -/
def holdsInlines : Kind → Bool
  | paragraph | heading => true
  | _ => false

def isList : Kind → Bool
  | bulletList | orderedList => true
  | _ => false

def isText : Kind → Bool
  | text | special => true
  | _ => false

end Kind

end DocComment
