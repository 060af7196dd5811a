/- Sections of a documentation comment. The abstract is the first block if that is a paragraph, where
HTML blocks before it do not count. HTML blocks right after the abstract are skipped, and the first
other block begins the discussion, which goes on to the last block. -/
import DocComment.Markup.Render
import DocComment.Text.Case

namespace DocComment

set_option autoImplicit false

/-- How far a documentation comment is read. -/
inductive Section where
  | abstract
  | discussion
  | ending
  deriving DecidableEq, Repr

namespace Section

def name : Section → Text
  | abstract => "ABSTRACT".toList
  | discussion => "DISCUSSION".toList
  | ending => "END".toList

def all : List Section := [abstract, discussion, ending]

def rank : Section → Nat
  | abstract => 0
  | discussion => 1
  | ending => 2

/-- The section with a name, written in any case. -/
def ofName? (name : Text) : Option Section :=
  all.find? fun s => s.name == Text.upper (Text.trim name)

def includesDiscussion : Section → Bool
  | abstract => false
  | discussion | ending => true

end Section

/-- The entries of an abstract: one for each inline of its paragraph, where neighbouring runs of plain
text are one. -/
def abstractEntries : List Node → List Text
  | [] => []
  | [node] => [node.render]
  | node :: next :: rest =>
    match abstractEntries (next :: rest) with
    | [] => [node.render]
    | entry :: entries =>
      if node.kind.isText && next.kind.isText then (node.render ++ entry) :: entries
      else node.render :: entry :: entries

/-- The blocks of a document in sections. -/
structure Split where
  abstract : Option (List Text) := none
  /-- The index of the first block of the discussion, and the index after its last block. -/
  discussion : Option (Nat × Nat) := none
  deriving DecidableEq, Repr

/-- A split on its way through the blocks. -/
structure Splitter where
  result : Split := {}
  /-- The section that the next block is expected in. -/
  current : Section := .abstract
  /-- The index of the first block of the discussion, once there was one. -/
  start : Option Nat := none
  deriving DecidableEq, Repr

namespace Splitter

/-- Takes a block into the discussion. With the last block of the document its extent is known. -/
def discuss (s : Splitter) (last index : Nat) : Splitter :=
  let start := s.start.getD index
  { s with
    start := some start
    result :=
      if index = last then { s.result with discussion := some (start, last + 1) } else s.result }

/-- Goes past one block, given the index of the last one. Blocks past the section up to which is read are
not looked at. -/
def step (upTo : Section) (last : Nat) (s : Splitter) : Node × Nat → Splitter
  | (block, index) =>
    if s.current = .ending ∨ upTo.rank < s.current.rank then s
    else
      match s.current with
      | .abstract =>
        if s.result.abstract.isNone && block.kind == .paragraph then
          { s with result := { s.result with abstract := some (abstractEntries block.children) } }
        else if block.kind = .htmlBlock then s
        else
          let s := { s with current := .discussion }
          if upTo.rank < s.current.rank then s else s.discuss last index
      | .discussion => s.discuss last index
      | .ending => s

end Splitter

namespace Split

/-- Splits the blocks of a document in one pass. -/
def ofBlocks (upTo : Section) (blocks : List Node) : Split :=
  (blocks.zipIdx.foldl (Splitter.step upTo (blocks.length - 1)) {}).result

def discussionBlocks (split : Split) (blocks : List Node) : List Node :=
  match split.discussion with
  | none => []
  | some (first, stop) => (blocks.take stop).drop first

end Split

end DocComment
