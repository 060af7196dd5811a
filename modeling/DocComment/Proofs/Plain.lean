/- Plain nodes: blocks that are read back from their text. What a block has to be like can be checked on
the node and its rendered lines (`Node.isPlain`). The check goes through containers inside each other, as
far as there is room for them, and what it accepts is read back wherever it stands
(`Markdown.sound_of_isPlain`). -/
import DocComment.Proofs.DirectiveReading
import DocComment.Proofs.HtmlReading
import DocComment.Proofs.ListReading

namespace DocComment

set_option autoImplicit false

namespace Markdown

/-! ## What can be checked -/

@[mk_iff]
structure PlainHeading (node : Node) : Prop where
  positive : 1 ≤ node.level
  small : node.level ≤ 6
  title : IsTitle (renderInlines node.children)
  settled : (renderInlines node.children).IsSettled

instance (node : Node) : Decidable (PlainHeading node) := decidable_of_iff' _ (plainHeading_iff node)

end Markdown

open Markdown

namespace Node

def opening (node : Node) : Fence.Opening :=
  { mark := node.fenceMarks.headD '`', length := node.fenceMarks.length, info := node.info }

/-- Whether a block may stand between a paragraph and the mark of an item without empty lines. -/
def followsDirectly (node : Node) : Bool :=
  match node.kind with
  | .heading | .fence => true
  | .bulletList => node.isTight
  | .orderedList => node.isTight && node.firstNumber == 1
  | _ => false

/-- Whether the blocks of an item go together: a paragraph comes first; where there are no empty lines,
only one block may follow, and directly. -/
def fit (tight : Bool) : List Node → Bool
  | [] => false
  | first :: others =>
    decide (PlainParagraph first) &&
      if tight then
        match others with
        | [] => true
        | [block] => block.followsDirectly
        | _ => false
      else decide ((first :: others).IsChain Apart)

/-- Whether the items of a list can be marked, and hold blocks that go together and pass a check. -/
def hasPlainItems (check : Node → Bool) (node : Node) : Bool :=
  decide (Enumerates node) && !node.children.isEmpty &&
    node.children.all fun item => fit node.readsTight item.children && item.children.all check

/-- Whether a block is read back from its text, with room for containers inside each other. -/
def isPlain : Nat → Node → Bool
  | 0, _ => false
  | room + 1, node =>
    match node.kind with
    | .paragraph => decide (PlainParagraph node)
    | .heading => decide (PlainHeading node)
    | .rule => true
    | .fence =>
      node.fenceMarks == node.opening.marks && decide (IsFence node.opening node.codeLines)
    | .codeBlock => decide (IsCode node.codeLines)
    | .htmlBlock => decide (IsHtml node.rows)
    | .quote =>
      !node.children.isEmpty && node.children.all (isPlain room) && decide (node.children.IsChain Apart)
    | .directive =>
      decide (PlainDirective node) && node.children.all (isPlain room) &&
        decide (node.children.IsChain Apart)
    | .bulletList | .orderedList =>
      -- A list takes up two levels, one of them for its items.
      match room with
      | 0 => false
      | room + 1 => node.hasPlainItems (isPlain room)
    | _ => false

end Node

namespace Markdown

/-! ## What holds of plain nodes -/

/-- Lines that can stand in a container: they are indented with spaces, and the last one is not blank. -/
structure Tidy (rows : List Text) : Prop where
  neat : ∀ row ∈ rows, row.IsNeat
  last : ∀ row, rows.getLast? = some row → row.dropWhile isIndent ≠ []

/-- A node that is read back from its lines, with what containers ask of these. -/
structure Sound (room : Nat) (node : Node) : Prop where
  positive : 0 < room
  rereads : Rereads room node
  starts : Starts node
  tidy : Tidy node.rows
  hugs : node.followsDirectly = true → HugsParagraph node

theorem Tidy.of_solid {rows : List Text} (solid : ∀ row ∈ rows, row.IsSolid) : Tidy rows := by
  refine ⟨fun row member => (solid row member).isNeat, fun row last => ?_⟩
  have member := solid row (List.mem_of_getLast? last)
  rw [member.dropWhile]
  exact member.ne_nil

/-- Blocks with tidy lines, one below the other. -/
theorem Tidy.stack {loose : Bool} {nodes : List Node} (each : ∀ node ∈ nodes, Tidy node.rows) :
    Tidy (Text.stack loose (nodes.map Node.rows)) := by
  refine ⟨fun row member => ?_, fun row last => ?_⟩
  · rcases Text.mem_stack member with ⟨-, rfl⟩ | ⟨rows, found, inside⟩
    · decide
    · obtain ⟨node, memberNode, rfl⟩ := List.mem_map.1 found
      exact (each node memberNode).neat row inside
  · obtain ⟨rows, found, ends⟩ := Text.getLast?_stack (Node.rows_filled nodes) last
    obtain ⟨node, memberNode, rfl⟩ := List.mem_map.1 found
    exact (each node memberNode).last row ends

variable {room : Nat} {node : Node}

theorem sound_paragraph (plain : PlainParagraph node) : Sound (room + 1) node := by
  refine ⟨Nat.succ_pos _, rereads_paragraph plain.kind plain.lines plain.settled, plain.starts,
    .of_solid plain.lines.solid, fun follows => ?_⟩
  simp [Node.followsDirectly, plain.kind] at follows

/-- A heading has one line, which begins with number signs and is neither indented nor blank. -/
theorem sound_heading (heading : node.kind = .heading) (plain : PlainHeading node) :
    Sound (room + 1) node := by
  obtain ⟨positive, small, title, settled⟩ := plain
  obtain ⟨level, levels⟩ : ∃ level : Nat, node.level = (level + 1 : Nat) :=
    ⟨(node.level - 1).toNat, by omega⟩
  have rows := rows_heading heading title.line
  rw [levels, Int.toNat_natCast] at rows
  have solid : Text.IsSolid (List.replicate (level + 1) '#' ++ ' ' :: renderInlines node.children) :=
    Text.isSolid_cons rfl _
  refine ⟨Nat.succ_pos _, rereads_heading heading levels (by omega) (by omega) title settled, ?_, ?_,
    fun _ => ⟨by simp [Node.hugs, heading], _, _, rows, solid, ?_, fun options frame n shown => ?_⟩⟩
  · refine starts_of_unmarked rows ?_ (fun _ => solid)
      (ListMark.read?_eq_none (by decide) (by decide))
    rw [solid.dropWhile]
    exact solid.ne_nil
  · rw [rows]
    exact .of_solid fun row member => by rwa [List.eq_of_mem_singleton member]
  · simp [Underline.mark?, List.replicate_succ]
  · have parts := Heading.parts?_title (by omega) (by omega : level + 1 ≤ 6) title
    simp [interrupts, Heading.starts, shown.isCode, shown.body, parts]

theorem sound_rule (rule : node.kind = .rule) : Sound (room + 1) node := by
  have rows := rows_rule rule
  refine ⟨Nat.succ_pos _, rereads_rule rule, starts_of_unmarked rows (by decide) (fun _ => by decide)
    (by decide), ?_, fun follows => ?_⟩
  · rw [rows]
    exact .of_solid (by decide)
  · simp [Node.followsDirectly, rule] at follows

/-- The first and the last line of a fence are its marks, which are neither blank nor indented. -/
theorem sound_fence (fence : node.kind = .fence) (marks : node.fenceMarks = node.opening.marks)
    (isFence : IsFence node.opening node.codeLines) : Sound (room + 1) node := by
  have rows := rows_fence fence (by rw [marks]; exact isFence.free)
  rw [marks] at rows
  have solid := isFence.solid node.info
  have ends := isFence.solid []
  rw [List.append_nil] at ends
  obtain ⟨rest, begins⟩ := isFence.marks_eq_cons node.info
  refine ⟨Nat.succ_pos _, rereads_fence fence marks rfl isFence, ?_, ?_,
    fun _ => ⟨by simp [Node.hugs, fence], _, _, rows, solid, ?_, fun options frame n shown => ?_⟩⟩
  · refine starts_of_unmarked rows ?_ (fun _ => solid) ?_
    · rw [solid.dropWhile]
      exact solid.ne_nil
    · rw [begins]
      rcases isFence.mark with tick | tilde
      · exact ListMark.read?_eq_none (by rw [tick]; decide) (by rw [tick]; decide)
      · exact ListMark.read?_eq_none (by rw [tilde]; decide) (by rw [tilde]; decide)
  · rw [rows]
    refine ⟨fun row member => ?_, fun row last => ?_⟩
    · simp only [List.mem_cons, List.mem_append, List.not_mem_nil, or_false] at member
      rcases member with rfl | inside | rfl
      · exact solid.isNeat
      · exact isFence.neat row inside
      · exact ends.isNeat
    · obtain rfl : node.opening.marks = row := by
        simpa [List.getLast?_cons, List.getLast?_append] using last
      rw [ends.dropWhile]
      exact ends.ne_nil
  · rw [begins]
    rcases isFence.mark with tick | tilde
    · simp [Underline.mark?, tick]
    · simp [Underline.mark?, tilde]
  · have opens : Fence.opening? (node.opening.marks ++ node.info) = some node.opening :=
      isFence.opening?_eq
    simp [interrupts, Fence.starts, shown.isCode, shown.body, opens]

/-- Code ends with a line that is not blank, as containers ask. -/
theorem sound_code (code : node.kind = .codeBlock) (isCode : IsCode node.codeLines) :
    Sound (room + 1) node := by
  have rows := rows_code code
  obtain ⟨first, rest, lines⟩ := List.exists_cons_of_ne_nil isCode.filled
  have filled := isCode.first first (by rw [lines]; rfl)
  refine ⟨Nat.succ_pos _, rereads_code code isCode, ?_, ?_, fun follows => ?_⟩
  · rw [lines, List.map_cons, CodeBlock.lead] at rows
    refine starts_of_unmarked rows (Text.filled_leadLine filled) (fun other => absurd code other) ?_
    rw [Text.leadLine_of_ne (Text.ne_nil_of_filled filled)]
    exact ListMark.read?_eq_none (by decide) (by decide)
  · rw [rows]
    refine ⟨fun row member => ?_, fun row last => ?_⟩
    · obtain ⟨line, inside, rfl⟩ := List.mem_map.1 member
      exact Text.isNeat_leadLine (isCode.neat line inside)
    · rw [List.getLast?_map] at last
      obtain ⟨line, ends, rfl⟩ := Option.map_eq_some_iff.1 last
      exact Text.filled_leadLine (isCode.last line ends)
  · simp [Node.followsDirectly, code] at follows

theorem sound_html (html : node.kind = .htmlBlock) (isHtml : IsHtml node.rows) :
    Sound (room + 1) node := by
  obtain ⟨tail, rest, opening, rows, -⟩ := isHtml.eq_cons
  have solid : Text.IsSolid ('<' :: tail) := Text.isSolid_cons rfl tail
  refine ⟨Nat.succ_pos _, rereads_html html isHtml, starts_of_unmarked rows ?_ (fun _ => solid)
    (ListMark.read?_eq_none (by decide) (by decide)), ⟨isHtml.neat, fun row last => ?_⟩, fun follows => ?_⟩
  · rw [solid.dropWhile]
    exact solid.ne_nil
  · exact isHtml.filled row (List.mem_of_getLast? last)
  · simp [Node.followsDirectly, html] at follows

/-- Every line of a quote begins with its mark, so none is blank or indented, whatever the blocks inside
are. -/
theorem sound_quote (quote : node.kind = .quote) (filled : node.children ≠ [])
    (each : ∀ child ∈ node.children, Sound room child) (apart : node.children.IsChain Apart) :
    Sound (room + 1) node := by
  have rows := rows_quote quote filled
  have tidy := @Tidy.stack true node.children fun child member => (each child member).tidy
  obtain ⟨child, others, shape⟩ := List.exists_cons_of_ne_nil filled
  have positive := (each child (by rw [shape]; exact List.mem_cons_self ..)).positive
  refine ⟨Nat.succ_pos _, rereads_quote quote filled (fun child member => (each child member).rereads)
    (fun child member => (each child member).starts) apart positive tidy.neat, ?_, ?_,
    fun follows => ?_⟩
  · cases stacked : Text.stack true (node.children.map Node.rows) with
    | nil =>
        rw [stacked] at rows
        exact absurd rows (Text.lines_ne_nil _)
    | cons text texts =>
        rw [stacked, List.map_cons] at rows
        have solid := Quote.solid_leadLine text
        refine starts_of_unmarked rows ?_ (fun _ => solid) ?_
        · rw [solid.dropWhile]
          exact solid.ne_nil
        · obtain ⟨after, led, -⟩ := Quote.leadLine_lead text
          rw [led]
          exact ListMark.read?_eq_none (by decide) (by decide)
  · rw [rows]
    refine .of_solid fun row member => ?_
    obtain ⟨text, -, rfl⟩ := List.mem_map.1 member
    exact Quote.solid_leadLine text
  · simp [Node.followsDirectly, quote] at follows

/-- The braces stand on lines of their own, and the body is indented with spaces. -/
theorem sound_directive (directive : node.kind = .directive) (plain : PlainDirective node)
    (each : ∀ child ∈ node.children, Sound room child) (apart : node.children.IsChain Apart) :
    Sound (room + 1) node := by
  have rows := rows_directive directive plain.line
  have tidy := @Tidy.stack true node.children fun child member => (each child member).tidy
  obtain ⟨tail, begins⟩ : ∃ tail, node.directiveLine = '@' :: tail := ⟨_, rfl⟩
  rw [begins] at rows
  have solid : Text.IsSolid ('@' :: tail) := Text.isSolid_cons rfl tail
  have positive : node.children ≠ [] → 0 < room := fun filled => by
    obtain ⟨child, others, shape⟩ := List.exists_cons_of_ne_nil filled
    exact (each child (by rw [shape]; exact List.mem_cons_self ..)).positive
  refine ⟨Nat.succ_pos _, rereads_directive directive plain
    (fun child member => (each child member).rereads) (fun child member => (each child member).starts)
    apart positive, ?_, ?_, fun follows => ?_⟩
  · refine starts_of_unmarked rows ?_ (fun _ => solid) (ListMark.read?_eq_none (by decide) (by decide))
    rw [solid.dropWhile]
    exact solid.ne_nil
  · rw [rows]
    cases bare : node.children.isEmpty with
    | true => exact .of_solid fun row member => by rwa [List.eq_of_mem_singleton member]
    | false =>
        refine ⟨fun row member => ?_, fun row last => ?_⟩
        · simp only [Bool.false_eq_true, if_false, List.mem_cons, List.mem_append, List.mem_map,
            List.not_mem_nil, or_false] at member
          rcases member with rfl | ⟨text, inside, rfl⟩ | rfl
          · exact solid.isNeat
          · exact Text.isNeat_leadLine (tidy.neat text inside)
          · decide
        · obtain rfl : ['}'] = row := by
            simpa [List.getLast?_cons, List.getLast?_append] using last
          decide
  · simp [Node.followsDirectly, directive] at follows

/-! ## Lists -/

/-- What goes together in an item. -/
theorem exists_of_fit {tight : Bool} {blocks : List Node} (fits : Node.fit tight blocks = true) :
    ∃ first others, blocks = first :: others ∧ PlainParagraph first ∧
      (tight = true → others = [] ∨ ∃ block, others = [block] ∧ block.followsDirectly = true) ∧
      (tight = false → blocks.IsChain Apart) := by
  cases blocks with
  | nil => cases fits
  | cons first others =>
      simp only [Node.fit, Bool.and_eq_true, decide_eq_true_eq] at fits
      refine ⟨first, others, rfl, fits.1, fun isTight => ?_, fun isLoose => ?_⟩
      · rw [if_pos isTight] at fits
        match others, fits.2 with
        | [], _ => exact .inl rfl
        | [block], follows => exact .inr ⟨block, rfl, follows⟩
      · rw [isLoose] at fits
        simpa using fits.2

/-- The blocks of an item are read back if they go together. -/
theorem sequenceRereads_of_fit {tight : Bool} {blocks : List Node} (fits : Node.fit tight blocks = true)
    (each : ∀ block ∈ blocks, Sound room block) : SequenceRereads tight room blocks := by
  obtain ⟨first, others, rfl, paragraph, follows, apart⟩ := exists_of_fit fits
  have positive := (each first (List.mem_cons_self ..)).positive
  cases tight with
  | true =>
      refine sequenceRereads_tight ?_ positive
      rcases follows rfl with rfl | ⟨block, rfl, direct⟩
      · exact .single paragraph
      · have sound := each block (List.mem_cons_of_mem _ (List.mem_cons_self ..))
        exact .nested paragraph (sound.hugs direct) sound.rereads
  | false =>
      exact sequenceRereads_loose (by simp) (fun block member => (each block member).rereads)
        (fun block member => (each block member).starts) (apart rfl) positive

/-- A list begins with a mark of its own kind. -/
theorem Enumerates.starts (enumerates : Enumerates node) (written : (firstMark node).Written)
    (line : Text) :
    (∀ mark, ListMark.bullet? ((firstMark node).text ++ ' ' :: line) = some mark →
      node.kind = .bulletList) ∧
    (∀ mark, ListMark.ordered? ((firstMark node).text ++ ' ' :: line) = some mark →
      node.kind = .orderedList ∧ mark.sign = node.sign) := by
  have same := (written.read?_eq line).1
  have other := written.other?_eq_none line
  cases enumerates with
  | bullets kind =>
      have bullet : (firstMark node).digits = none := by simp [firstMark, markOf, kind]
      rw [bullet, Option.isSome_none, if_neg (by simp)] at other
      refine ⟨fun _ _ => kind, fun mark read => ?_⟩
      rw [other] at read
      cases read
  | numbers kind positive short ends markup =>
      have ordered : firstMark node =
          { digits := some (Text.ofNat node.firstNumber.toNat), sign := node.sign } := by
        rw [firstMark, markOf, if_pos kind]
      rw [ordered, Option.isSome_some, if_pos rfl] at same other
      rw [ordered]
      refine ⟨fun mark read => ?_, fun mark read => ?_⟩
      · rw [other] at read
        cases read
      · rw [same] at read
        cases read
        exact ⟨kind, rfl⟩

/-- A list that may follow a paragraph directly is tight, and its first mark interrupts paragraphs. -/
theorem Enumerates.interrupting (enumerates : Enumerates node)
    (follows : node.followsDirectly = true) :
    node.isTight = true ∧ (firstMark node).interruptsParagraph = true := by
  cases enumerates with
  | bullets kind =>
      rw [Node.followsDirectly, kind] at follows
      exact ⟨follows, by simp [ListMark.interruptsParagraph, firstMark, markOf, kind]⟩
  | numbers kind positive short ends markup =>
      rw [Node.followsDirectly, kind] at follows
      simp only [Bool.and_eq_true, beq_iff_eq] at follows
      have ordered : firstMark node =
          { digits := some (Text.ofNat node.firstNumber.toNat), sign := node.sign } := by
        rw [firstMark, markOf, if_pos kind]
      rw [ListMark.interruptsParagraph, ordered, number_eq, follows.2]
      exact ⟨follows.1, rfl⟩

section

variable (enumerates : Enumerates node) (filled : node.children ≠ [])
  (each : ∀ item ∈ node.children, Node.fit node.readsTight item.children = true ∧
    ∀ block ∈ item.children, Sound room block)

include enumerates filled each

/-- The check of each item gives one of the two ways in which its blocks are read back. -/
theorem plainItems_of_fit : PlainItems room node where
  enumerates := enumerates
  filled := filled
  headed item member := by
    obtain ⟨first, others, shape, paragraph, -⟩ := exists_of_fit (each item member).1
    simp [Node.IsHeaded, shape, paragraph.kind]
  head item member := by
    obtain ⟨first, others, shape, paragraph, -⟩ := exists_of_fit (each item member).1
    exact headProse_of_paragraph shape paragraph
  rereads item member := by
    obtain ⟨fits, sound⟩ := each item member
    obtain ⟨first, others, shape, paragraph, -⟩ := exists_of_fit fits
    exact itemRereads (headProse_of_paragraph shape paragraph) (sequenceRereads_of_fit fits sound)
  last item member :=
    (Tidy.stack fun block inside => ((each item member).2 block inside).tidy).last

/-- The lines of a list are tidy if those of its blocks are. -/
theorem tidy_list : Tidy node.rows := by
  have plain := plainItems_of_fit enumerates filled each
  have rereadable := plain.rereadable
  rw [plain.rows_eq]
  refine ⟨fun row member => ?_, fun row last => ?_⟩
  · rcases Text.mem_stack member with ⟨-, rfl⟩ | ⟨group, found, inside⟩
    · decide
    · obtain ⟨pair, memberPair, rfl⟩ := List.mem_map.1 found
      obtain ⟨line, below, stacked, prose⟩ := (rereadable pair memberPair).head
      have tidy := @Tidy.stack (!node.readsTight) pair.2.children fun block inside =>
        ((each pair.2 (mem_markItems memberPair).1).2 block inside).tidy
      rw [stacked] at tidy
      rw [itemRows, stacked] at inside
      rcases Text.mem_leadFrom inside with ⟨first, here, rfl⟩ | ⟨old, here, rfl⟩
      · obtain rfl : line = first := by simpa using here
        rw [Text.leadLine_of_ne prose.solid.ne_nil, List.append_assoc]
        exact ((rereadable pair memberPair).written.solid _).isNeat
      · exact Text.isNeat_leadLine (tidy.neat old here)
  · obtain ⟨group, found, ends⟩ := Text.getLast?_stack plain.groups_filled last
    obtain ⟨pair, memberPair, rfl⟩ := List.mem_map.1 found
    exact (rereadable pair memberPair).last row ends

/-- The marks of the items begin the lines of a list, and below them all is indented with spaces. -/
theorem sound_list : Sound (room + 2) node := by
  have plain := plainItems_of_fit enumerates filled each
  obtain ⟨item, more, line, below, pairs, rows, written, prose⟩ := plain.eq_cons
  have solid := written.solid (' ' :: line)
  refine ⟨Nat.succ_pos _, plain.rereads_list, ⟨_, below, rows, ?_, fun _ => solid, ?_⟩,
    tidy_list enumerates filled each, fun follows => ?_⟩
  · rw [solid.dropWhile]
    exact solid.ne_nil
  · exact enumerates.starts written line
  · obtain ⟨tight, interrupting⟩ := enumerates.interrupting follows
    exact ⟨(Node.hugs_list enumerates.isList).trans tight, _, below, rows, solid,
      (written.isMarked prose).underline, fun options frame n shown =>
        ListMark.interrupts_of_solid written prose interrupting shown⟩

end

/-! ## The check is sound -/

theorem sound_of_items (below : ∀ child : Node, child.isPlain room = true → Sound room child)
    (items : node.hasPlainItems (Node.isPlain room) = true) : Sound (room + 2) node := by
  simp only [Node.hasPlainItems, Bool.and_eq_true, decide_eq_true_eq, Bool.not_eq_true',
    List.isEmpty_eq_false_iff, List.all_eq_true] at items
  obtain ⟨⟨enumerates, filled⟩, each⟩ := items
  exact sound_list enumerates filled fun item member =>
    ⟨(each item member).1, fun block inside => below block ((each item member).2 block inside)⟩

/-- **Plain nodes are read back.** -/
theorem sound_of_isPlain (plain : node.isPlain room = true) : Sound room node := by
  -- The room goes down by one inside a quote or a directive, and by two inside a list with its items.
  induction room using Nat.strongRecOn generalizing node with
  | ind room ih =>
      cases room with
      | zero => cases plain
      | succ room =>
          have below : ∀ child : Node, child.isPlain room = true → Sound room child := fun child =>
            ih room (Nat.lt_succ_self _)
          unfold Node.isPlain at plain
          split at plain
          next kind => exact sound_paragraph (of_decide_eq_true plain)
          next kind => exact sound_heading kind (of_decide_eq_true plain)
          next kind => exact sound_rule kind
          next kind =>
            simp only [Bool.and_eq_true, beq_iff_eq, decide_eq_true_eq] at plain
            exact sound_fence kind plain.1 plain.2
          next kind => exact sound_code kind (of_decide_eq_true plain)
          next kind => exact sound_html kind (of_decide_eq_true plain)
          next kind =>
            simp only [Bool.and_eq_true, decide_eq_true_eq, Bool.not_eq_true',
              List.isEmpty_eq_false_iff, List.all_eq_true] at plain
            obtain ⟨⟨filled, each⟩, apart⟩ := plain
            exact sound_quote kind filled (fun child member => below child (each child member)) apart
          next kind =>
            simp only [Bool.and_eq_true, decide_eq_true_eq, List.all_eq_true] at plain
            obtain ⟨⟨directive, each⟩, apart⟩ := plain
            exact sound_directive kind directive (fun child member => below child (each child member))
              apart
          next kind =>
            cases room with
            | zero => cases plain
            | succ room => exact sound_of_items (fun child => ih room (by omega)) plain
          next kind =>
            cases room with
            | zero => cases plain
            | succ room => exact sound_of_items (fun child => ih room (by omega)) plain
          next => cases plain

end Markdown

end DocComment
