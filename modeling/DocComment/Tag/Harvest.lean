/- Harvesting takes the tags out of a discussion. Candidates are the items of bullet lists that are
themselves blocks of the discussion; deeper items count only as entries of an outline tag. Blocks that
describe a parameter or a result by a command are taken wherever they are. A list that loses all its
items goes too. -/
import DocComment.Markup.Render
import DocComment.Tag.Collector
import DocComment.Tag.Item
import DocComment.Text.Integer

namespace DocComment

set_option autoImplicit false

/-- The status code that a text gives: zero if it is no plain number. A numeral that is too long is
refused. -/
def statusCode (code : Text) : Except IntegerFault Int :=
  let digits := Text.trim code
  if !digits.isEmpty && digits.all isAsciiDigit then
    if digitLimit < digits.length then .error (.tooLong digits.length)
    else .ok (Text.digitsValue (digits.map fun c => c.toNat - 48))
  else .ok 0

namespace Harvest

/-- Adds the entries of an outline one after the other. -/
def addEntries (add : Collector → TagItem → Except IntegerFault Collector) :
    Collector → List TagItem → Except IntegerFault Collector
  | c, [] => .ok c
  | c, entry :: entries => do
    let c ← add c entry
    addEntries add c entries

def addParameter (standalone : Bool) (c : Collector) (name : Text) (contents : List Node) :
    Collector :=
  c.addParameter { name, contents := renderAll contents, standalone }

/-- Adds a response under the code that is written for it. -/
def addResponse (c : Collector) (code : Text) (contents : List Node) :
    Except IntegerFault Collector := do
  let status ← statusCode code
  .ok (c.addHttpResponse { status, contents := renderAll contents })

def addKnown (c : Collector) (item : Node) (tag : TagItem) (known : KnownTag) :
    Except IntegerFault Collector :=
  let contents := renderAll tag.contents
  let argument := known.argument.getD []
  let entries := TagItem.outline item
  match known.keyword with
  | .returns => .ok (c.addReturns contents)
  | .throws => .ok (c.addThrows contents)
  | .parameter => .ok (addParameter true c argument tag.contents)
  | .parameters =>
    addEntries (fun c entry => .ok (addParameter false c entry.name entry.contents)) c entries
  | .httpBody => .ok (c.setHttpBody contents)
  | .httpResponse => addResponse c argument tag.contents
  | .httpResponses => addEntries (fun c entry => addResponse c entry.name entry.contents) c entries
  | .httpParameter => .ok (c.addHttpParameter { name := argument, contents })
  | .httpParameters =>
    addEntries (fun c entry =>
      .ok (c.addHttpParameter { name := entry.name, contents := renderAll entry.contents })) c entries
  | .httpBodyParameter => .ok (c.addHttpBodyParameter { name := argument, contents })
  | .httpBodyParameters =>
    addEntries (fun c entry =>
      .ok (c.addHttpBodyParameter { name := entry.name, contents := renderAll entry.contents }))
      c.declareHttpBody entries

def takeItem? (c : Collector) (item : Node) : Except IntegerFault (Option Collector) :=
  match TagItem.ofNode? item with
  | none => .ok none
  | some tag =>
    match tag.known with
    | some known => do
      let c ← addKnown c item tag known
      .ok (some (c.consume item))
    | none =>
      if TagName.isSimple tag.name then
        .ok (some ((c.addSimple { name := tag.name, contents := renderAll tag.contents }).consume
          item))
      else .ok none

/-- A node whose children were harvested: a list that lost all its items is dropped. -/
def regrow (node : Node) (kept : List Node) : Option Node :=
  if node.kind.isList && kept.isEmpty && !node.children.isEmpty then none
  else some (node.withChildren kept)

mutual

/-- Takes the commands out of a node, and says what is left of it. -/
def prune (c : Collector) : Node → Option Node × Collector
  | ⟨kind, children, content, markup, info, attrs, traits, range⟩ =>
    let node : Node := ⟨kind, children, content, markup, info, attrs, traits, range⟩
    match kind with
    | .paramCommand => (none, (addParameter true c node.name children).consume node)
    | .returnsCommand => (none, (c.addReturns (renderAll children)).consume node)
    | .paragraph | .heading => (some node, c)
    | _ =>
      let (kept, c) := pruneAll c children
      (regrow node kept, c)

def pruneAll (c : Collector) : List Node → List Node × Collector
  | [] => ([], c)
  | node :: nodes =>
    let (left, c) := prune c node
    let (kept, c) := pruneAll c nodes
    (left.toList ++ kept, c)

end

/-- Takes the tags among the items of a list, and the commands inside the others. -/
def takeItems (c : Collector) : List Node → Except IntegerFault (List Node × Collector)
  | [] => .ok ([], c)
  | item :: items => do
    match ← takeItem? c item with
    | some c => takeItems c items
    | none =>
      let (left, c) := prune c item
      let (kept, c) ← takeItems c items
      .ok (left.toList ++ kept, c)

def takeBlock (c : Collector) (block : Node) : Except IntegerFault (Option Node × Collector) :=
  if block.kind = .bulletList then do
    let (kept, c) ← takeItems c block.children
    .ok (regrow block kept, c)
  else .ok (prune c block)

def takeBlocks (c : Collector) : List Node → Except IntegerFault (List Node × Collector)
  | [] => .ok ([], c)
  | block :: blocks => do
    let (left, c) ← takeBlock c block
    let (kept, c) ← takeBlocks c blocks
    .ok (left.toList ++ kept, c)

/-- What is worth noting about an item that was looked at. -/
inductive Note where
  /-- An entry of an outline has no name. -/
  | namelessEntry
  /-- The name of an item is no tag. -/
  | unknownTag (name : Text)
  deriving DecidableEq, Repr

def itemNotes (item : Node) : List Note :=
  match TagItem.ofNode? item with
  | none => []
  | some tag =>
    match tag.known with
    | some known =>
      if known.keyword.isOutline then
        ((TagItem.nestedItems item).filter fun entry => (TagItem.ofNode? entry).isNone).map
          fun _ => .namelessEntry
      else []
    | none => if TagName.isSimple tag.name then [] else [.unknownTag tag.name]

def breaksOff (item : Node) : Bool :=
  match takeItem? {} item with
  | .error _ => true
  | .ok _ => false

/-- The notes on items in order, up to the one at which the harvest breaks off. -/
def notesOn : List Node → List Note
  | [] => []
  | item :: items => itemNotes item ++ (if breaksOff item then [] else notesOn items)

def notes (blocks : List Node) : List Note :=
  notesOn (blocks.flatMap fun block => if block.kind = .bulletList then block.children else [])

end Harvest

/-- A discussion after its tags were taken out. -/
structure Harvest where
  /-- The blocks that are left. -/
  blocks : List Node
  table : TagTable
  /-- The nodes that became tags, in the order in which they were met. -/
  consumed : List Node
  deriving Repr

/-- Takes the tags out of the blocks of a discussion. -/
def harvest (blocks : List Node) : Except IntegerFault Harvest := do
  let (kept, c) ← Harvest.takeBlocks {} blocks
  .ok { blocks := kept, table := c.table, consumed := c.consumed }

/-- The texts of the blocks that are left; none if there are no blocks. -/
def Harvest.discussion (h : Harvest) : Option (List Text) :=
  if h.blocks.isEmpty then none else some (renderAll h.blocks)

end DocComment
