/- One spelling for every markup tree. Emphasis is written with stars, bullets with hyphens, soft and
hard line breaks both as a newline; escapes, entities, fences and code spans keep what was written.
Nested blocks are indented line by line.

Rendering gives a text for every tree. What a machine refuses is left out here: trees that are nested too
deep for it, numbers with more digits than it prints (4300), and levels of headings beyond the longest text
that it can hold. No tree that was read from a text has such numbers. -/
import DocComment.Markup.Node
import DocComment.Text.Blank

namespace DocComment

set_option autoImplicit false

namespace Text

/-- One line after its lead. An empty line keeps the lead without trailing blanks. -/
def leadLine (lead line : Text) : Text := if line.isEmpty then trimRight lead else lead ++ line

def indentAll (lead t : Text) : Text := unlines ((lines t).map (leadLine lead))

/-- The first line of a text after a lead of its own, the others after another one. -/
def indentFrom (first lead t : Text) : Text :=
  match lines t with
  | [] => []
  | line :: rest => unlines (leadLine first line :: rest.map (leadLine lead))

end Text

namespace Render

def dropNewlines (t : Text) : Text := Text.dropRightWhile (· == '\n') t

/-- What is written before an item of a list. -/
def marker (kind : Kind) (number : Int) (itemMarkup : Text) : Text :=
  match kind with
  | .orderedList =>
    Text.ofInt number ++ (if itemMarkup.isEmpty then ['.'] else itemMarkup) ++ [' ']
  | _ => ['-', ' ']

/-- What is written between the blocks of an item and between the items of a list. -/
def gap (tight : Bool) : Text := if tight then ['\n'] else ['\n', '\n']

/-- An item of a list from the text of its blocks. -/
def item (marker body : Text) : Text :=
  Text.indentFrom marker (List.replicate marker.length ' ') body

/-- The items of a list from their markup and the texts of their blocks, numbered from a first one. -/
def items (kind : Kind) (tight : Bool) : Int → List (Text × List Text) → List Text
  | _, [] => []
  | number, (itemMarkup, blocks) :: rest =>
    item (marker kind number itemMarkup) (Text.joinWith (gap tight) blocks) ::
      items kind tight (number + 1) rest

/-- The first line of a directive without its brace. -/
def directiveHead (node : Node) : Text :=
  '@' :: (node.name ++
    match node.arguments with
    | none => []
    | some arguments => ['('] ++ arguments ++ [')'])

/-- The target of a link or an image with its title. -/
def target (node : Node) (key : Text) : Text :=
  let title := node.attr "title".toList
  node.attr key ++ (if title.isEmpty then [] else [' ', '"'] ++ title ++ ['"'])

/-- A list from the markup of its items and the texts of their blocks. -/
def assembleList (node : Node) (parts : List (Text × List Text)) : Text :=
  Text.joinWith (gap node.isTight) (items node.kind node.isTight node.firstNumber parts)

/-- A node that is no list from the texts of its children. -/
def assemble (node : Node) (parts : List Text) : Text :=
  let blocks := Text.joinWith ['\n', '\n'] parts
  let inlines := parts.flatten
  match node.kind with
  | .root | .listItem | .bulletList | .orderedList => blocks
  | .paragraph => inlines
  | .heading => List.replicate node.level.toNat '#' ++ [' '] ++ inlines
  | .quote => Text.indentAll ['>', ' '] blocks
  | .fence =>
    let fence := if node.markup.isEmpty then ['`', '`', '`'] else node.markup
    fence ++ node.info ++ ['\n'] ++ dropNewlines node.content ++ ['\n'] ++ fence
  | .codeBlock => Text.indentAll [' ', ' ', ' ', ' '] (dropNewlines node.content)
  | .htmlBlock => dropNewlines node.content
  | .rule => ['-', '-', '-']
  | .directive =>
    if node.children.isEmpty then directiveHead node
    else
      directiveHead node ++ [' ', '{', '\n'] ++
        Text.indentAll [' ', ' ', ' ', ' '] blocks ++ ['\n', '}']
  | .paramCommand =>
    Text.trimRight ("\\param ".toList ++ node.name ++ [' '] ++ blocks)
  | .returnsCommand => Text.trimRight ("\\returns ".toList ++ blocks)
  | .text | .html => node.content
  | .special => if node.markup.isEmpty then node.content else node.markup
  | .softBreak | .hardBreak => ['\n']
  | .code =>
    let ticks := if node.markup.isEmpty then ['`'] else node.markup
    ticks ++ node.content ++ ticks
  | .emphasis => ['*'] ++ inlines ++ ['*']
  | .strong => ['*', '*'] ++ inlines ++ ['*', '*']
  | .link =>
    if node.markup = "autolink".toList then ['<'] ++ inlines ++ ['>']
    else ['['] ++ inlines ++ [']', '('] ++ target node "href".toList ++ [')']
  | .image => ['!', '['] ++ node.content ++ [']', '('] ++ target node "src".toList ++ [')']
  | .other _ => if node.children.isEmpty then node.content else blocks

end Render

mutual

/-- The text of a node, without a newline at its end. -/
def Node.render : Node → Text
  | ⟨kind, children, content, markup, info, attrs, traits, range⟩ =>
    if kind.isList then
      Render.assembleList ⟨kind, children, content, markup, info, attrs, traits, range⟩
        (renderItems children)
    else
      Render.assemble ⟨kind, children, content, markup, info, attrs, traits, range⟩
        (renderAll children)

def renderAll : List Node → List Text
  | [] => []
  | node :: nodes => node.render :: renderAll nodes

/-- The markup of each node and the texts of its children. -/
def renderItems : List Node → List (Text × List Text)
  | [] => []
  | ⟨_, children, _, markup, _, _, _, _⟩ :: nodes =>
    (markup, renderAll children) :: renderItems nodes

end

def renderBlocks (blocks : List Node) : Text := Text.joinWith ['\n', '\n'] (renderAll blocks)

def renderInlines (inlines : List Node) : Text := (renderAll inlines).flatten

end DocComment
