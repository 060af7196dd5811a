/- The harvest as a walk over a tree. Whether a node is taken depends only on the node and on its place:
the document, a block of it, an item of a bullet list that is such a block, or anything deeper. So what
is taken (`takings`) and what is left (`remains`) are functions of the tree alone, and the tags are
collected by one run over the nodes that are taken (`record`):

* `prune_eq` and `takeItem?_eq` say this of the steps of the harvest,
* `harvest_eq` of the whole. Every law of the harvest is derived from it. -/
import DocComment.Proofs.Tree
import DocComment.Tag.Harvest

namespace DocComment

set_option autoImplicit false

/-- Whether a block describes a parameter or a result by a command. -/
def Kind.isCommand : Kind → Bool
  | paramCommand | returnsCommand => true
  | _ => false

/-- Only items of lists are tags. -/
theorem TagItem.ofNode?_eq_none {node : Node} (other : node.kind ≠ .listItem) :
    TagItem.ofNode? node = none := by
  unfold TagItem.ofNode?
  split
  · rename_i isItem _
    exact absurd isItem other
  · rfl

namespace Harvest

/-- Whether an item reads `name: content` with a name that is a keyword or passes through. -/
def isTag (item : Node) : Bool :=
  match TagItem.ofNode? item with
  | none => false
  | some tag => tag.known.isSome || TagName.isSimple tag.name

/-- Where a node stands. -/
inductive Place where
  | document
  /-- A block of the document. -/
  | block
  /-- A child of a bullet list that is a block of the document. -/
  | item
  | inner
  deriving DecidableEq, Repr

/-- The place of the children of a node. -/
def Place.below : Place → Kind → Place
  | .document, _ => .block
  | .block, .bulletList => .item
  | _, _ => .inner

theorem Place.below_block {kind : Kind} (other : kind ≠ .bulletList) :
    Place.below .block kind = .inner := by
  unfold Place.below
  split <;> simp_all

def isTaken (place : Place) (node : Node) : Bool :=
  node.kind.isCommand || (place == .item && isTag node)

mutual

def remains (place : Place) : Node → Option Node
  | ⟨kind, children, content, markup, info, attrs, traits, range⟩ =>
    let node : Node := ⟨kind, children, content, markup, info, attrs, traits, range⟩
    if isTaken place node then none
    else if kind.holdsInlines then some node
    else regrow node (remainsAll (place.below kind) children)

def remainsAll (place : Place) : List Node → List Node
  | [] => []
  | node :: nodes => (remains place node).toList ++ remainsAll place nodes

end

mutual

/-- The nodes that are taken, in the order of the document. -/
def takings (place : Place) : Node → List Node
  | ⟨kind, children, content, markup, info, attrs, traits, range⟩ =>
    let node : Node := ⟨kind, children, content, markup, info, attrs, traits, range⟩
    if isTaken place node then [node]
    else if kind.holdsInlines then []
    else takingsAll (place.below kind) children

def takingsAll (place : Place) : List Node → List Node
  | [] => []
  | node :: nodes => takings place node ++ takingsAll place nodes

end

theorem remainsAll_eq (place : Place) (nodes : List Node) :
    remainsAll place nodes = nodes.filterMap (remains place) := by
  induction nodes with
  | nil => rfl
  | cons node nodes ih =>
      rw [remainsAll, ih]
      cases left : remains place node with
      | none => simp [left]
      | some rest => simp [left]

theorem takingsAll_eq (place : Place) (nodes : List Node) :
    takingsAll place nodes = nodes.flatMap (takings place) := by
  induction nodes with
  | nil => rfl
  | cons node nodes ih => rw [takingsAll, ih, List.flatMap_cons]

theorem remains_eq (place : Place) (node : Node) :
    remains place node =
      if isTaken place node then none
      else if node.kind.holdsInlines then some node
      else regrow node (node.children.filterMap (remains (place.below node.kind))) := by
  obtain ⟨kind, children, content, markup, info, attrs, traits, range⟩ := node
  rw [remains, remainsAll_eq]

theorem takings_eq (place : Place) (node : Node) :
    takings place node =
      if isTaken place node then [node]
      else if node.kind.holdsInlines then []
      else node.children.flatMap (takings (place.below node.kind)) := by
  obtain ⟨kind, children, content, markup, info, attrs, traits, range⟩ := node
  rw [takings, takingsAll_eq]

/-- Adds the records of one node that is taken. -/
def record (c : Collector) (node : Node) : Except IntegerFault Collector :=
  match node.kind with
  | .paramCommand => .ok ((addParameter true c node.name node.children).consume node)
  | .returnsCommand => .ok ((c.addReturns (renderAll node.children)).consume node)
  | _ => (takeItem? c node).map fun taken => taken.getD (c.consume node)

theorem kind_of_isTag {item : Node} (tag : isTag item = true) : item.kind = .listItem := by
  apply Decidable.byContradiction
  intro other
  simp [isTag, TagItem.ofNode?_eq_none other] at tag

/-! ## The steps of the harvest -/

/-- An item is taken exactly if it is a tag. -/
theorem takeItem?_eq (c : Collector) (item : Node) :
    takeItem? c item = if isTag item then (record c item).map some else .ok none := by
  cases shape : TagItem.ofNode? item with
  | none => simp [isTag, takeItem?, shape]
  | some t =>
      cases keyword : t.known with
      | some known =>
          have tag : isTag item = true := by simp [isTag, shape, keyword]
          rw [if_pos tag]
          simp only [record, kind_of_isTag tag, takeItem?, shape, keyword]
          cases addKnown c item t known <;> rfl
      | none =>
          cases simple : TagName.isSimple t.name with
          | true =>
              have tag : isTag item = true := by simp [isTag, shape, simple]
              rw [if_pos tag]
              simp [record, kind_of_isTag tag, takeItem?, shape, keyword, simple, Except.map]
          | false => simp [isTag, takeItem?, shape, keyword, simple]

theorem prune_command (c : Collector) {node : Node} (command : node.kind.isCommand = true) :
    (prune c node).1 = none ∧ record c node = .ok (prune c node).2 := by
  obtain ⟨kind, children, content, markup, info, attrs, traits, range⟩ := node
  cases kind <;> simp [Kind.isCommand] at command <;> exact ⟨rfl, rfl⟩

theorem prune_other (c : Collector) {node : Node} (other : node.kind.isCommand = false) :
    prune c node =
      if node.kind.holdsInlines then (some node, c)
      else (regrow node (pruneAll c node.children).1, (pruneAll c node.children).2) := by
  obtain ⟨kind, children, content, markup, info, attrs, traits, range⟩ := node
  cases kind <;> simp [Kind.isCommand] at other <;> rfl

theorem pruneAll_cons (c : Collector) (node : Node) (nodes : List Node) :
    pruneAll c (node :: nodes) =
      ((prune c node).1.toList ++ (pruneAll (prune c node).2 nodes).1,
        (pruneAll (prune c node).2 nodes).2) := rfl

/-- Pruning several nodes, given what it does to each of them. -/
theorem pruneAll_eq (nodes : List Node)
    (each : ∀ node ∈ nodes, ∀ c, (prune c node).1 = remains .inner node ∧
      (takings .inner node).foldlM record c = .ok (prune c node).2) (c : Collector) :
    (pruneAll c nodes).1 = nodes.filterMap (remains .inner) ∧
      (nodes.flatMap (takings .inner)).foldlM record c = .ok (pruneAll c nodes).2 := by
  induction nodes generalizing c with
  | nil => exact ⟨rfl, rfl⟩
  | cons node nodes ih =>
      obtain ⟨left, run⟩ := each node (by simp) c
      obtain ⟨leftAll, runAll⟩ :=
        ih (fun n member => each n (List.mem_cons_of_mem _ member)) (prune c node).2
      constructor
      · rw [pruneAll_cons, leftAll, left]
        cases kept : remains .inner node with
        | none => simp [kept]
        | some rest => simp [kept]
      · rw [List.flatMap_cons, List.foldlM_append, run]
        exact runAll

/-- Pruning takes the commands of a node in order and leaves the rest of it. -/
theorem prune_eq (c : Collector) (node : Node) :
    (prune c node).1 = remains .inner node ∧
      (takings .inner node).foldlM record c = .ok (prune c node).2 := by
  induction node using Node.induct generalizing c with
  | step node ih =>
      rw [remains_eq, takings_eq]
      cases command : node.kind.isCommand with
      | true =>
          obtain ⟨left, run⟩ := prune_command c command
          simp [isTaken, command, left, run]
      | false =>
          rw [prune_other c command]
          cases inlines : node.kind.holdsInlines with
          | true => exact ⟨by simp [isTaken, command], by simp [isTaken, command]; rfl⟩
          | false =>
              obtain ⟨leftAll, runAll⟩ := pruneAll_eq node.children (fun n m c => ih n m c) c
              simp [isTaken, command, leftAll, runAll, Place.below]

/-- Deeper than the items of its lists, and in an item that is no tag, a block is only pruned. -/
theorem walk_inner {place : Place} {node : Node} (untagged : isTaken place node = node.kind.isCommand)
    (deep : place.below node.kind = .inner) :
    remains place node = remains .inner node ∧ takings place node = takings .inner node := by
  have inner : isTaken .inner node = node.kind.isCommand := by simp [isTaken]
  have below : Place.below .inner node.kind = .inner := by simp [Place.below]
  constructor
  · rw [remains_eq, remains_eq, untagged, inner, deep, below]
  · rw [takings_eq, takings_eq, untagged, inner, deep, below]

/-- A tag is taken as a whole. -/
theorem takings_of_isTag {item : Node} (tag : isTag item = true) : takings .item item = [item] := by
  rw [takings_eq, if_pos (by simp [isTaken, tag])]

/-- An item that is no tag is a block like others. -/
theorem walk_untagged {item : Node} (untagged : isTag item = false) :
    remains .item item = remains .inner item ∧ takings .item item = takings .inner item :=
  walk_inner (by simp [isTaken, untagged]) rfl

/-- Of the blocks of a document, only bullet lists are searched for tags. -/
theorem walk_block {block : Node} (other : block.kind ≠ .bulletList) :
    remains .block block = remains .inner block ∧ takings .block block = takings .inner block :=
  walk_inner (by simp [isTaken]) (Place.below_block other)

theorem takings_bulletList {block : Node} (list : block.kind = .bulletList) :
    takings .block block = block.children.flatMap (takings .item) := by
  have untaken : isTaken .block block = false := by simp [isTaken, list, Kind.isCommand]
  rw [takings_eq, untaken, list]
  rfl

/-- The loop over the items records what is taken from each in turn, and keeps what is left of each. -/
theorem takeItems_eq (c : Collector) (items : List Node) :
    takeItems c items = ((items.flatMap (takings .item)).foldlM record c).map
      fun c => (items.filterMap (remains .item), c) := by
  induction items generalizing c with
  | nil => rfl
  | cons item items ih =>
      rw [takeItems, takeItem?_eq, List.flatMap_cons, List.foldlM_append]
      cases tag : isTag item with
      | true =>
          have gone : remains .item item = none := by
            rw [remains_eq, if_pos (by simp [isTaken, tag])]
          rw [takings_of_isTag tag, List.filterMap_cons_none gone, List.foldlM_cons]
          cases record c item with
          | error fault => rfl
          | ok next => exact ih next
      | false =>
          obtain ⟨same, sameTakings⟩ := walk_untagged tag
          obtain ⟨left, run⟩ := prune_eq c item
          rw [sameTakings, run]
          simp only [Bool.false_eq_true, if_false, bind, Except.bind, ih]
          cases (items.flatMap (takings .item)).foldlM record (prune c item).2 with
          | error fault => rfl
          | ok next =>
              simp only [Except.map, left, same, List.filterMap_cons]
              cases remains .inner item <;> rfl

/-- One block: a bullet list is walked item by item, and any other block is pruned. -/
theorem takeBlock_eq (c : Collector) (block : Node) :
    takeBlock c block = ((takings .block block).foldlM record c).map
      fun c => (remains .block block, c) := by
  unfold takeBlock
  by_cases bullets : block.kind = .bulletList
  · have taken : isTaken .block block = false := by simp [isTaken, bullets, Kind.isCommand]
    rw [if_pos bullets, takeItems_eq, takings_bulletList bullets, remains_eq, taken, bullets]
    cases (block.children.flatMap (takings .item)).foldlM record c <;> rfl
  · obtain ⟨same, sameTakings⟩ := walk_block bullets
    obtain ⟨left, run⟩ := prune_eq c block
    rw [if_neg bullets, same, sameTakings, run]
    simp only [Except.map, ← left]

/-- The same for the blocks of a discussion, of which only bullet lists have items that are taken. -/
theorem takeBlocks_eq (c : Collector) (blocks : List Node) :
    takeBlocks c blocks = ((blocks.flatMap (takings .block)).foldlM record c).map
      fun c => (blocks.filterMap (remains .block), c) := by
  induction blocks generalizing c with
  | nil => rfl
  | cons block blocks ih =>
      rw [takeBlocks, takeBlock_eq, List.flatMap_cons, List.foldlM_append]
      cases (takings .block block).foldlM record c with
      | error fault => rfl
      | ok next =>
          simp only [Except.map, bind, Except.bind, ih]
          cases (blocks.flatMap (takings .block)).foldlM record next with
          | error fault => rfl
          | ok last =>
              simp only [List.filterMap_cons]
              cases remains .block block <;> rfl

def taken (blocks : List Node) : List Node := blocks.flatMap (takings .block)

def kept (blocks : List Node) : List Node := blocks.filterMap (remains .block)

end Harvest

/-- **The harvest is a run over what it takes.** The blocks that are left do not depend on the run. -/
theorem harvest_eq (blocks : List Node) :
    harvest blocks = ((Harvest.taken blocks).foldlM Harvest.record {}).map fun c =>
      { blocks := Harvest.kept blocks, table := c.table, consumed := c.consumed } := by
  rw [harvest, Harvest.takeBlocks_eq]
  change (Except.map _ ((Harvest.taken blocks).foldlM Harvest.record {}) >>= _) = _
  cases (Harvest.taken blocks).foldlM Harvest.record {} <;> rfl

end DocComment
