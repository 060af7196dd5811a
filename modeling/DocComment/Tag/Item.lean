/- Tags in list items: the first line of an item gives name and content, the other blocks belong to
the content. The entries of an outline tag are the items of the bullet lists inside its item. -/
import DocComment.Tag.Keyword
import DocComment.Tag.Line

namespace DocComment

set_option autoImplicit false

/-- A list item that reads `name: content`. -/
structure TagItem where
  name : Text
  known : Option KnownTag
  contents : List Node
  nameRange : Option Range := none
  range : Option Range := none
  deriving Repr

namespace TagItem

/-- The tag of a list item whose first block is a tag line. -/
def ofNode? (item : Node) : Option TagItem :=
  match item.kind, item.children with
  | .listItem, first :: rest =>
    if first.kind = .paragraph then
      (NameLine.ofParagraph? first).map fun line =>
        { name := line.name
          known := TagName.classify line.name
          contents := line.content :: rest
          nameRange := line.nameRange
          range := item.range }
    else none
  | _, _ => none

/-- The items of the bullet lists directly inside an item. -/
def nestedItems (item : Node) : List Node :=
  item.children.flatMap fun block => if block.kind = .bulletList then block.children else []

/-- The entries nested under an outline tag; items that are no tags are left out. -/
def outline (item : Node) : List TagItem := (nestedItems item).filterMap ofNode?

end TagItem

end DocComment
