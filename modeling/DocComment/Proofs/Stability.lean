/- Harvesting again what a harvest has left. The first harvest leaves no command outside of paragraphs and
headings, so a second one can take only tags; and since being a tag depends on the first block of an item
alone, it takes only items that have lost their first block (`losesHead_of_mem`). The second harvest
changes none of the items it leaves, so a third one finds nothing (`taken_kept_kept`).

Harvesting once is not always enough: `headedBlocks` has an item that becomes a tag when the command at
its head is taken. -/
import DocComment.Proofs.Conservation

namespace DocComment.Harvest

set_option autoImplicit false

/-- An item of a bullet list among the blocks that outlives the harvest while its first child does
not. -/
structure LosesHead (blocks : List Node) (i j : Nat) (item : Node) : Prop where
  listed : ∃ block, blocks[i]? = some block ∧ block.kind = .bulletList ∧
    block.children[j]? = some item
  survives : ¬ Gone blocks [i, j]
  headGone : Gone blocks [i, j, 0]

/-! ## What a harvest leaves holds no commands -/

theorem isCommand_of_untaken {place : Place} {node : Node} (untaken : isTaken place node = false) :
    node.kind.isCommand = false := by
  unfold isTaken at untaken
  simp_all

/-- What is left holds nothing that is taken wherever it stands. -/
theorem takings_inner_of_remains {place : Place} {node rest : Node}
    (left : remains place node = some rest) : takings .inner rest = [] := by
  induction node using Node.induct generalizing place rest with
  | step node ih =>
      obtain ⟨untaken, same⟩ := remains_eq_some left
      have kind := kind_of_remains left
      have untakenRest : isTaken .inner rest = false := by
        simp [isTaken, kind, isCommand_of_untaken untaken]
      rw [takings_eq, untakenRest, kind]
      rcases same with ⟨inlines, -⟩ | ⟨inlines, rfl⟩
      · simp [inlines]
      · simp only [inlines, Bool.false_eq_true, if_false]
        refine List.flatMap_eq_nil_iff.2 fun child member => ?_
        obtain ⟨old, oldMember, leftOld⟩ := List.mem_filterMap.1 member
        exact ih old oldMember leftOld

theorem takings_inner_child {node child : Node} (clean : takings .inner node = [])
    (list : node.kind = .bulletList) (member : child ∈ node.children) :
    takings .inner child = [] := by
  have untaken : isTaken .inner node = false := by simp [isTaken, list, Kind.isCommand]
  rw [takings_eq, untaken, list] at clean
  exact List.flatMap_eq_nil_iff.1 clean child member

/-- From an item without commands only the item itself can be taken. -/
theorem takings_item_of_clean {item : Node} (clean : takings .inner item = []) :
    takings .item item = if isTag item then [item] else [] := by
  cases tag : isTag item with
  | true => rw [takings_of_isTag tag, if_pos rfl]
  | false =>
      rw [(walk_untagged tag).2, clean]
      rfl

theorem remains_item_of_clean {item : Node} (clean : takings .inner item = []) :
    remains .item item = if isTag item then none else some item := by
  have takings := takings_item_of_clean clean
  cases tag : isTag item with
  | true => rw [remains_of_taken (by simp [isTaken, tag]), if_pos rfl]
  | false =>
      rw [tag] at takings
      exact remains_of_takings_nil takings

/-- From a block without commands only the tags among its items are taken. -/
theorem mem_takings_block {block node : Node} (clean : takings .inner block = [])
    (member : node ∈ takings .block block) :
    block.kind = .bulletList ∧ node ∈ block.children ∧ isTag node = true := by
  by_cases list : block.kind = .bulletList
  · rw [takings_bulletList list] at member
    obtain ⟨item, memberItem, taken⟩ := List.mem_flatMap.1 member
    rw [takings_item_of_clean (takings_inner_child clean list memberItem)] at taken
    cases tag : isTag item with
    | true =>
        obtain rfl : node = item := by simpa [tag] using taken
        exact ⟨list, memberItem, tag⟩
    | false => simp [tag] at taken
  · rw [(walk_block list).2, clean] at member
    cases member

/-- What is left of a bullet list among the blocks has what is left of its items. -/
theorem children_of_remains_block {block rest : Node} (left : remains .block block = some rest)
    (list : rest.kind = .bulletList) :
    block.kind = .bulletList ∧ rest.children = block.children.filterMap (remains .item) := by
  have kind := (kind_of_remains left).symm.trans list
  rcases (remains_eq_some left).2 with ⟨inlines, -⟩ | ⟨-, rfl⟩
  · simp [kind, Kind.holdsInlines] at inlines
  · refine ⟨kind, ?_⟩
    rw [Node.withChildren_children, kind, Place.below]

/-- Out of blocks without commands, what one harvest leaves the next one leaves too. -/
theorem taken_kept_of_clean {blocks : List Node}
    (clean : ∀ block ∈ blocks, takings .inner block = []) : taken (kept blocks) = [] := by
  refine List.flatMap_eq_nil_iff.2 fun rest member => List.eq_nil_iff_forall_not_mem.2 ?_
  intro node takenNode
  obtain ⟨block, memberBlock, left⟩ := List.mem_filterMap.1 member
  obtain ⟨listRest, memberNode, tag⟩ := mem_takings_block (takings_inner_of_remains left) takenNode
  obtain ⟨list, children⟩ := children_of_remains_block left listRest
  rw [children] at memberNode
  obtain ⟨item, memberItem, leftItem⟩ := List.mem_filterMap.1 memberNode
  have cleanItem := takings_inner_child (clean block memberBlock) list memberItem
  rw [remains_item_of_clean cleanItem] at leftItem
  cases tagItem : isTag item with
  | true => simp [tagItem] at leftItem
  | false =>
      obtain rfl : item = node := by simpa [tagItem] using leftItem
      simp [tag] at tagItem

theorem clean_kept (blocks : List Node) : ∀ block ∈ kept blocks, takings .inner block = [] := by
  intro rest member
  obtain ⟨block, -, left⟩ := List.mem_filterMap.1 member
  exact takings_inner_of_remains left

/-- **A third harvest takes nothing.** -/
theorem taken_kept_kept (blocks : List Node) : taken (kept (kept blocks)) = [] :=
  taken_kept_of_clean (clean_kept blocks)

/-! ## What a second harvest takes has lost its head -/

def beginsTag (first : Node) : Bool :=
  first.kind == .paragraph &&
    match NameLine.ofParagraph? first with
    | none => false
    | some line => (TagName.classify line.name).isSome || TagName.isSimple line.name

/-- An item is a tag by its first block alone. -/
theorem isTag_eq_beginsTag {item first : Node} {others : List Node} (isItem : item.kind = .listItem)
    (children : item.children = first :: others) : isTag item = beginsTag first := by
  by_cases paragraph : first.kind = .paragraph
  · cases line : NameLine.ofParagraph? first <;>
      simp [isTag, beginsTag, TagItem.ofNode?, isItem, children, paragraph, line]
  · simp [isTag, beginsTag, TagItem.ofNode?, isItem, children, paragraph]

/-- A paragraph that is left is left as it is, so what begins a tag afterwards began one before. -/
theorem beginsTag_of_remains {place : Place} {first rest : Node}
    (left : remains place first = some rest) (begins : beginsTag rest = true) :
    beginsTag first = true := by
  have paragraph : rest.kind = .paragraph := by
    simp only [beginsTag, Bool.and_eq_true, beq_iff_eq] at begins
    exact begins.1
  rcases (remains_eq_some left).2 with ⟨-, rfl⟩ | ⟨blocks, -⟩
  · exact begins
  · rw [← kind_of_remains left, paragraph] at blocks
    cases blocks

/-- An item that is no tag becomes one only by losing its first child. -/
theorem head_lost {item rest : Node} (left : remains .item item = some rest)
    (tag : isTag rest = true) :
    ∃ first, item.children[0]? = some first ∧ remains .inner first = none := by
  have isItem : item.kind = .listItem := (kind_of_remains left).symm.trans (kind_of_isTag tag)
  obtain ⟨untaken, ⟨inlines, -⟩ | ⟨-, rfl⟩⟩ := remains_eq_some left
  · simp [isItem, Kind.holdsInlines] at inlines
  have untagged : isTag item = false := by
    unfold isTaken at untaken
    simp_all
  cases children : item.children with
  | nil => simp [isTag, TagItem.ofNode?, children] at tag
  | cons first others =>
      refine ⟨first, rfl, ?_⟩
      cases leftFirst : remains .inner first with
      | none => rfl
      | some f =>
          have childrenRest : item.children.filterMap (remains (Place.below .item item.kind)) =
              f :: others.filterMap (remains .inner) := by
            rw [children]
            exact List.filterMap_cons_some leftFirst
          have begins := isTag_eq_beginsTag (show (item.withChildren _).kind = .listItem from isItem)
            childrenRest
          rw [tag] at begins
          rw [isTag_eq_beginsTag isItem children, beginsTag_of_remains leftFirst begins.symm] at untagged
          cases untagged

/-- The walk comes to an item of a list through the list only. -/
theorem reach_item {blocks : List Node} {i j : Nat} {block item : Node}
    (found : blocks[i]? = some block) (list : block.kind = .bulletList)
    (foundItem : block.children[j]? = some item) (p : Way) :
    reach .document (Node.document blocks) (i :: j :: p) = reach .item item p := by
  have untaken : isTaken (Place.below .document .root) block = false := by
    simp [isTaken, Place.below, list, Kind.isCommand]
  have inlines : block.kind.holdsInlines = false := by
    rw [list]
    rfl
  rw [reach_cons (j :: p) rfl rfl found]
  refine (reach_cons p untaken inlines foundItem).trans ?_
  rw [list]
  rfl

/-- **What a second harvest takes is what is left of an item that lost its first child.** -/
theorem losesHead_of_mem {blocks : List Node} {node : Node} (member : node ∈ taken (kept blocks)) :
    ∃ i j item, LosesHead blocks i j item ∧
      node = item.without fun p => Gone blocks (i :: j :: p) := by
  obtain ⟨rest, memberRest, takenNode⟩ := List.mem_flatMap.1 member
  obtain ⟨block, memberBlock, left⟩ := List.mem_filterMap.1 memberRest
  obtain ⟨listRest, memberNode, tag⟩ := mem_takings_block (takings_inner_of_remains left) takenNode
  obtain ⟨list, children⟩ := children_of_remains_block left listRest
  rw [children] at memberNode
  obtain ⟨item, memberItem, leftItem⟩ := List.mem_filterMap.1 memberNode
  obtain ⟨first, foundFirst, lost⟩ := head_lost leftItem tag
  obtain ⟨i, found⟩ := List.mem_iff_getElem?.1 memberBlock
  obtain ⟨j, foundItem⟩ := List.mem_iff_getElem?.1 memberItem
  have along := reach_item found list foundItem
  have isItem : item.kind = .listItem := (kind_of_remains leftItem).symm.trans (kind_of_isTag tag)
  have untaken := (remains_eq_some leftItem).1
  have inlines : item.kind.holdsInlines = false := by
    rw [isItem]
    rfl
  refine ⟨i, j, item, ⟨⟨block, found, list, foundItem⟩, ?_, ?_⟩, ?_⟩
  · rw [gone_iff, along]
    simp [reach, leftItem]
  · rw [gone_iff, along, reach_cons [] untaken inlines foundFirst]
    exact ⟨_, rfl, lost⟩
  · refine (without_of_remains item .item node _ (fun k p => ?_) leftItem).symm
    rw [gone_iff, along]

theorem harvest_of_taken_nil {blocks : List Node} (nothing : taken blocks = []) :
    harvest blocks = .ok { blocks, table := {}, consumed := [] } := by
  have same := (taken_eq_nil_iff blocks).1 nothing
  rw [harvest_closed, nothing, same]
  rfl

/-- **Harvesting stabilises after two passes.** Where no item loses its first child the second harvest
already finds nothing. In any case what it consumes is what is left of such items, and a third harvest
finds nothing. -/
theorem harvest_stabilises {blocks : List Node} {h₁ : Harvest} (first : harvest blocks = .ok h₁) :
    ((∀ i j item, ¬ LosesHead blocks i j item) →
        harvest h₁.blocks = .ok { blocks := h₁.blocks, table := {}, consumed := [] }) ∧
      ∀ h₂, harvest h₁.blocks = .ok h₂ →
        (∀ node ∈ h₂.consumed, ∃ i j item, LosesHead blocks i j item ∧
            node = item.without fun p => Gone blocks (i :: j :: p)) ∧
          harvest h₂.blocks = .ok { blocks := h₂.blocks, table := {}, consumed := [] } := by
  obtain ⟨-, left, -, -⟩ := harvest_eq_ok_iff.1 first
  rw [left]
  refine ⟨fun noneLost => ?_, fun h₂ second => ?_⟩
  · refine harvest_of_taken_nil (List.eq_nil_iff_forall_not_mem.2 fun node member => ?_)
    obtain ⟨i, j, item, loses, -⟩ := losesHead_of_mem member
    exact noneLost i j item loses
  · obtain ⟨-, left₂, -, consumed₂⟩ := harvest_eq_ok_iff.1 second
    rw [left₂, consumed₂]
    exact ⟨fun node member => losesHead_of_mem member, harvest_of_taken_nil (taken_kept_kept blocks)⟩

/-- An item that is no tag until the command at its head is taken. -/
def headedBlocks : List Node :=
  [bullets [{ kind := .listItem
              children := [{ kind := .paramCommand },
                Node.paragraph [Node.plain "Returns: a".toList] none] }]]

/-- A tag beside an item that keeps its first child and loses another. -/
def tailedBlocks : List Node :=
  [bullets [lineItem "Returns: a" [], lineItem "b" [{ kind := .paramCommand }]]]

theorem not_losesHead_tailedBlocks (i j : Nat) (item : Node) : ¬ LosesHead tailedBlocks i j item := by
  rintro ⟨⟨block, found, -, foundItem⟩, survives, headGone⟩
  obtain rfl : i = 0 := by
    have := (List.getElem?_eq_some_iff.1 found).1
    simp only [tailedBlocks, List.length_cons, List.length_nil] at this
    omega
  obtain rfl : bullets [lineItem "Returns: a" [], lineItem "b" [{ kind := .paramCommand }]] = block :=
    Option.some.inj found
  match j with
  | 0 => exact absurd survives (by decide +kernel)
  | 1 => exact absurd headGone (by decide +kernel)
  | _ + 2 => cases foundItem

/-- The item that loses its head is a tag for the second harvest, and the third one finds nothing. Where no
item loses its head the second one finds nothing. -/
theorem harvest_stabilises_headedBlocks :
    (∃ h₁ h₂, harvest headedBlocks = .ok h₁ ∧
      harvest h₁.blocks = .ok h₂ ∧ h₂.table = { returns := [[['a']]] } ∧
        (∀ node ∈ h₂.consumed, ∃ i j item, LosesHead headedBlocks i j item ∧
          node = item.without fun p => Gone headedBlocks (i :: j :: p)) ∧
        harvest h₂.blocks = .ok { blocks := h₂.blocks, table := {}, consumed := [] }) ∧
    ∃ h₁, harvest tailedBlocks = .ok h₁ ∧ h₁.consumed.length = 2 ∧
      (∀ i j item, ¬ LosesHead tailedBlocks i j item) ∧
        harvest h₁.blocks = .ok { blocks := h₁.blocks, table := {}, consumed := [] } := by
  have first := harvest_of_short headedBlocks (by decide +kernel)
  have second := harvest_of_short (kept headedBlocks) (by decide +kernel)
  have only := harvest_of_short tailedBlocks (by decide +kernel)
  exact ⟨⟨_, _, first, second, by decide +kernel, (harvest_stabilises first).2 _ second⟩,
    _, only, by decide +kernel, not_losesHead_tailedBlocks,
    (harvest_stabilises only).1 not_losesHead_tailedBlocks⟩

end DocComment.Harvest
