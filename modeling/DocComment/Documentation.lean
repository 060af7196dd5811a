/- The model of a documentation comment: its abstract, its discussion without the tags, and the tags.
As JSON an absent or empty section is left out, and the members of the tags follow those of the
sections. -/
import DocComment.Section
import DocComment.Tag.Harvest

namespace DocComment

set_option autoImplicit false

structure Documentation where
  abstract : Option (List Text) := none
  discussion : Option (List Text) := none
  /-- Absent if the discussion was not read. -/
  tags : Option TagTable := none
  deriving DecidableEq, Repr

namespace Documentation

/-- The model of a document, read up to a section. -/
def ofDocument (upTo : Section) (document : Node) : Except IntegerFault Documentation :=
  let split := Split.ofBlocks upTo document.children
  if upTo.includesDiscussion then do
    let h ← harvest (split.discussionBlocks document.children)
    .ok { abstract := split.abstract, discussion := h.discussion, tags := some h.table }
  else .ok { abstract := split.abstract }

/-- The discussion as one text. -/
def format (discussion : List Text) : Text := Text.joinWith ['\n', '\n'] discussion

/-- The member of a section, if it has entries. -/
def sectionMember (key : Text) : Option (List Text) → Fields
  | none | some [] => []
  | some (entry :: entries) => [(key, Json.texts (entry :: entries))]

def fields (d : Documentation) : Fields :=
  sectionMember "abstract".toList d.abstract ++ sectionMember "discussion".toList d.discussion ++
    (match d.tags with
      | none => []
      | some table => table.fields)

def toJson (d : Documentation) : Json := .obj d.fields

end Documentation

end DocComment
