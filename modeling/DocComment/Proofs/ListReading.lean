/- Reading back lists. The lines of an item are those of its blocks after the mark and its width in
spaces, so they are shown as such in the frame of the item, and the item ends at a line that is not
indented as far. In a loose list there are empty lines between the blocks and between the items; in a
tight list a block ends at the next mark, which not every block does (`Node.hugs`). From what one item is
read as (`ItemRereads`) the induction over the items gives the list (`PlainItems.rereads_list`). -/
import DocComment.Proofs.Marks
import DocComment.Proofs.Rereading

namespace DocComment

set_option autoImplicit false

namespace Markdown

/-! ## Items -/

/-- The lines of an item under a mark: those of its blocks, where the first one follows the mark. -/
def itemRows (tight : Bool) (mark : ListMark) (item : Node) : List Text :=
  Text.leadFrom (mark.text ++ [' ']) (List.replicate (mark.length + 1) ' ')
    (Text.stack (!tight) (item.children.map Node.rows))

theorem length_leadFrom (first lead : Text) (texts : List Text) :
    (Text.leadFrom first lead texts).length = texts.length := by
  cases texts <;> simp [Text.leadFrom]

theorem length_itemRows (tight : Bool) (mark : ListMark) (item : Node) :
    (itemRows tight mark item).length = (Text.stack (!tight) (item.children.map Node.rows)).length :=
  length_leadFrom ..

/-- An item is read back under any mark, up to a line that does not belong to it. -/
def ItemRereads (tight : Bool) (room : Nat) (item : Node) : Prop :=
  ∀ (options : Options) (fuel : Nat) (frame : Frame) (columns start stop s : Nat) (mark : ListMark),
    mark.Written → frame.Ready options (room + 2) fuel stop →
    frame.Shows columns start (itemRows tight mark item) →
    start + (itemRows tight mark item).length ≤ stop →
    (Items.innerFrame frame start mark).Rest stop (start + (itemRows tight mark item).length) s →
    (tight = false →
      (Items.innerFrame frame start mark).Closed stop (start + (itemRows tight mark item).length) s) →
    (s < stop → (Items.innerFrame frame start mark).isOutdented s = true) →
    ∃ elements,
      Items.readItem (Block.readBlocks options fuel) frame [] start stop mark =
        { elements, stop := s, definitions := []
          tight := tight || decide (item.children.length = 1) } ∧
      List.Forall₂ Spells elements item.children

section

variable {options : Options} {frame : Frame} {mark : ListMark} {columns start stop fuel room : Nat}

theorem Items.ready_innerFrame (ready : frame.Ready options (room + 2) fuel stop) :
    ∃ less, fuel = less + 1 ∧ (innerFrame frame start mark).Ready options room less stop := by
  refine ready.deeper Nat.two_pos rfl ready.bound ?_
  show frame.limit ≤ (frame.lines.set start _).length
  rw [List.length_set]
  exact ready.inside

theorem Items.readItem_filled (inner : Reader)
    (filled : (innerFrame frame start mark).isEmpty start = false) :
    readItem inner frame [] start stop mark = inner (innerFrame frame start mark) [] start stop := by
  simp [readItem, filled]

end

/-- Blocks are read back one after the other from their lines, up to a line that does not belong to
their container. -/
def SequenceRereads (tight : Bool) (room : Nat) (nodes : List Node) : Prop :=
  ∀ (options : Options) (fuel : Nat) (frame : Frame) (columns n stop s count : Nat),
    frame.Ready options room fuel stop →
    frame.Shows columns n (Text.stack (!tight) (nodes.map Node.rows)) →
    n + (Text.stack (!tight) (nodes.map Node.rows)).length ≤ stop →
    frame.Rest stop (n + (Text.stack (!tight) (nodes.map Node.rows)).length) s →
    (tight = false → frame.Closed stop (n + (Text.stack (!tight) (nodes.map Node.rows)).length) s) →
    (s < stop → frame.isOutdented s = true) → nodes.length ≤ count →
    ∃ elements,
      Block.readFrom (Block.readBlocks options fuel) options frame count [] n stop false true =
        { elements, stop := s, definitions := [], tight := tight || decide (nodes.length = 1) } ∧
      List.Forall₂ Spells elements nodes

theorem sequenceRereads_loose {room : Nat} {nodes : List Node} (filled : nodes ≠ [])
    (each : ∀ node ∈ nodes, Rereads room node) (starts : ∀ node ∈ nodes, Starts node)
    (apart : nodes.IsChain Apart) (positive : 0 < room) : SequenceRereads false room nodes := by
  intro options fuel frame columns n stop s count ready shows inside rest closed outside enough
  obtain ⟨elements, read, spells⟩ := @Block.readFrom_spaced options frame columns n stop s count false
    true fuel room nodes filled each starts apart positive ready shows inside (closed rfl) outside enough
  refine ⟨elements, ?_, spells⟩
  rw [read]
  simp

/-- The first line of an item is one of a paragraph. -/
def HeadProse (tight : Bool) (item : Node) : Prop :=
  ∃ line below, Text.stack (!tight) (item.children.map Node.rows) = line :: below ∧ IsProse line

/-- An item is read back if its blocks are. -/
theorem itemRereads {tight : Bool} {room : Nat} {item : Node} (head : HeadProse tight item)
    (blocks : SequenceRereads tight room item.children) : ItemRereads tight room item := by
  intro options fuel frame columns start stop s mark written ready shows inside rest closed outside
  obtain ⟨line, below, stacked, prose⟩ := head
  have innerShows : (Items.innerFrame frame start mark).Shows (columns + (mark.length + 1)) start
      (Text.stack (!tight) (item.children.map Node.rows)) := by
    rw [itemRows, stacked] at shows
    rw [stacked]
    exact Items.shows_innerFrame written prose.solid shows
  rw [length_itemRows] at inside rest closed
  obtain ⟨less, rfl, innerReady⟩ := @Items.ready_innerFrame options frame mark start stop fuel room ready
  have solid : (Items.innerFrame frame start mark).Solid start line := by
    rw [stacked] at innerShows
    exact innerShows.solid prose.solid
  have count : item.children.length ≤ stop - start := by
    have := Node.length_le_stack (!tight) item.children
    omega
  rw [Items.readItem_filled _ solid.filled]
  exact blocks options less _ _ start stop s _ innerReady innerShows inside rest closed outside count

/-- A paragraph by its lines and its text. -/
@[mk_iff]
structure PlainParagraph (node : Node) : Prop where
  kind : node.kind = .paragraph
  lines : IsParagraph node.rows
  settled : node.render.IsSettled

instance (node : Node) : Decidable (PlainParagraph node) := decidable_of_iff' _ (plainParagraph_iff node)

theorem PlainParagraph.starts {node : Node} (plain : PlainParagraph node) : Starts node := by
  obtain ⟨row, rest, rows, prose, -⟩ := plain.lines.eq_cons
  refine starts_of_unmarked rows ?_ (fun _ => prose.solid) prose.mark
  rw [prose.solid.dropWhile]
  exact prose.solid.ne_nil

/-- A block that may stand between a paragraph and the mark of an item without empty lines. -/
structure HugsParagraph (node : Node) : Prop where
  hugs : node.hugs = true
  row : ∃ row rest, node.rows = row :: rest ∧ row.IsSolid ∧ Underline.mark? row = none ∧
    ∀ (options : Options) (frame : Frame) (n : Nat), frame.Solid n row →
      interrupts options true frame n = true

section

variable {options : Options} {inner : Reader} {frame : Frame} {columns start stop count : Nat}
  {spaced tight : Bool} {node : Node}

/-- A paragraph that is followed directly by the block with which reading goes on. -/
theorem Block.readFrom_paragraph (plain : PlainParagraph node) {room fuel : Nat}
    (positive : 0 < room) (ready : frame.Ready options room fuel stop)
    (shows : frame.Shows columns start node.rows) (inside : start + node.rows.length < stop)
    (stops : frame.Stops options (start + node.rows.length))
    (filled : frame.isEmpty (start + node.rows.length) = false) :
    ∃ element, Spells element node ∧
      readFrom inner options frame (count + 1) [] start stop spaced tight =
        (let reading := readFrom inner options frame count [] (start + node.rows.length) stop spaced
          (!spaced)
        { reading with elements := element :: reading.elements }) := by
  have bound := ready.bound
  have depth := ready.depth
  have height := List.length_pos_iff.2 plain.lines.filled
  have text : Text.unlines node.rows = node.render := Text.unlines_lines _
  have read := Block.read_paragraph inner [] plain.lines shows (by omega) bound stops
  rw [text] at read
  obtain ⟨first, level⟩ := plain.starts.filled shows
  have last : frame.isEmpty (start + node.rows.length - 1) = false := by
    have found := List.getElem?_eq_getElem (show node.rows.length - 1 < node.rows.length by omega)
    have solid := plain.lines.solid _ (List.mem_of_getElem? found)
    have shown := shows.shown _ _ found
    rw [← Nat.add_sub_assoc (show 1 ≤ node.rows.length by omega)] at shown
    rw [Frame.isEmpty, shown.isEmpty_eq, solid.dropWhile, List.isEmpty_eq_false_iff]
    exact solid.ne_nil
  refine ⟨_, spells_paragraph plain.kind plain.settled start (start + node.rows.length), ?_⟩
  rw [readFrom_block (by omega) first level (by omega) read, gapAfter_filled last filled,
    if_neg (by simp [filled])]

end

/-- The blocks of an item without empty lines: a paragraph, and possibly a block after it. -/
inductive TightBlocks (room : Nat) : List Node → Prop
  | single {paragraph : Node} (plain : PlainParagraph paragraph) : TightBlocks room [paragraph]
  | nested {paragraph block : Node} (plain : PlainParagraph paragraph) (hugs : HugsParagraph block)
      (rereads : Rereads room block) : TightBlocks room [paragraph, block]

theorem headProse_of_paragraph {tight : Bool} {item paragraph : Node} {others : List Node}
    (shape : item.children = paragraph :: others) (plain : PlainParagraph paragraph) :
    HeadProse tight item := by
  obtain ⟨line, rest, rows, prose, -⟩ := plain.lines.eq_cons
  obtain ⟨below, stacked⟩ := Text.exists_stack_cons (!tight) paragraph.rows (others.map Node.rows)
  refine ⟨line, rest ++ below, ?_, prose⟩
  rw [shape, List.map_cons, stacked, rows, List.cons_append]

/-- A paragraph alone ends the item. A block after it has to interrupt the paragraph, as there is no empty
line between them. -/
theorem sequenceRereads_tight {room : Nat} {nodes : List Node} (blocks : TightBlocks room nodes)
    (positive : 0 < room) : SequenceRereads true room nodes := by
  intro options fuel frame columns n stop s count ready shows inside rest closed outside enough
  have depth := ready.depth
  rw [Bool.not_true] at shows inside rest
  cases blocks with
  | @single paragraph plain =>
      simp only [List.map_cons, List.map_nil, Text.stack] at shows inside rest
      obtain ⟨left, rfl⟩ : ∃ left, count = left + 1 := ⟨count - 1, by
        rw [List.length_singleton] at enough
        omega⟩
      have hugs : paragraph.hugs = true := by simp [Node.hugs, plain.kind]
      obtain ⟨element, read, spells⟩ := rereads_paragraph plain.kind plain.lines plain.settled options
        fuel frame columns n stop s ready shows inside rest
        (fun other => by rw [hugs] at other; cases other) (parts_of_outside outside)
      obtain ⟨filled, level⟩ := plain.starts.filled shows
      have height := List.length_pos_iff.2 plain.lines.filled
      refine ⟨[element], ?_, .cons spells .nil⟩
      rw [Block.readFrom_block (by omega) filled level (by omega) read, Block.next_of_rest rest,
        Block.readFrom_done [] (rest.done outside)]
      rfl
  | @nested paragraph block plain hugs rereads =>
      simp only [List.map_cons, List.map_nil, Text.stack_cons_cons, Text.stack, Bool.false_eq_true,
        if_false, List.nil_append, List.length_append, ← Nat.add_assoc] at shows inside rest
      obtain ⟨left, rfl⟩ : ∃ left, count = left + 2 := ⟨count - 2, by
        simp only [List.length_cons, List.length_nil] at enough
        omega⟩
      obtain ⟨row, below, rows, isSolid, underline, interrupting⟩ := hugs.row
      have showsBlock := shows.right
      have solid : frame.Solid (n + paragraph.rows.length) row := by
        rw [rows] at showsBlock
        exact showsBlock.solid isSolid
      have level : 0 ≤ (frame.line (n + paragraph.rows.length)).indent := by
        rw [solid.level, shows.indent]
        omega
      -- The first line of the block has to interrupt the paragraph, as no empty line stands between them.
      have stops : frame.Stops options (n + paragraph.rows.length) :=
        .interrupted solid.filled solid.isCode level (.inr (by rw [solid.body]; exact underline))
          (interrupting options frame _ solid)
      have height : 0 < block.rows.length := List.length_pos_iff.2 (Text.lines_ne_nil block.render)
      obtain ⟨first, spellsFirst, readFirst⟩ := Block.readFrom_paragraph plain positive ready shows.left
        (by omega) stops solid.filled
      obtain ⟨second, readSecond, spellsSecond⟩ := rereads options fuel frame columns
        (n + paragraph.rows.length) stop s ready showsBlock inside rest
        (fun other => by rw [hugs.hugs] at other; cases other) (parts_of_outside outside)
      refine ⟨[first, second], ?_, .cons spellsFirst (.cons spellsSecond .nil)⟩
      rw [readFirst, Block.readFrom_block (by omega) solid.filled solid.isOutdented (by omega) readSecond,
        Block.next_of_rest rest, Block.readFrom_done [] (rest.done outside)]
      rfl

/-! ## From item to item -/

namespace Items

variable {options : Options} {frame : Frame} {mark : ListMark} {columns start stop e s : Nat}

section

variable (inside : start < frame.lines.length)
  (wider : frame.indent < (innerFrame frame start mark).indent)

include inside

theorem line_innerFrame_after {m : Nat} (after : start < m) :
    (innerFrame frame start mark).line m = frame.line m := by
  rw [line_innerFrame inside, if_neg (by omega)]

/-- What closes a list closes its last item. -/
theorem closed_innerFrame (after : start < e) (closed : frame.Closed stop e s) :
    (innerFrame frame start mark).Closed stop e s := by
  have empty : ∀ m, start < m → (innerFrame frame start mark).isEmpty m = frame.isEmpty m := by
    intro m later
    rw [Frame.isEmpty, line_innerFrame_after inside later, Frame.isEmpty]
  cases closed with
  | ending ends => exact .ending (by rw [empty _ after]; exact ends)
  | spaced here more filled =>
      exact .spaced (by rw [empty _ after]; exact here) more (by rw [empty _ (by omega)]; exact filled)

include wider

/-- A line that is not indented further than a list is outside of its items. -/
theorem isOutdented_innerFrame {m : Nat} (after : start < m)
    (level : (frame.line m).indent ≤ frame.indent) :
    (innerFrame frame start mark).isOutdented m = true := by
  rw [Frame.isOutdented, line_innerFrame_after inside after, decide_eq_true_eq]
  omega

/-- Seen from inside an item, the mark of the next one stands left of the content. -/
theorem marked_innerFrame {m : Nat} (after : start < m)
    (begins : (ListMark.read? (frame.body m)).isSome = true) (zero : 0 ≤ (frame.line m).indent)
    (level : (frame.line m).indent ≤ frame.indent) : (innerFrame frame start mark).Marked m := by
  have same := @line_innerFrame_after frame mark start inside m after
  refine ⟨?_, ?_, ?_, ?_⟩
  · rw [Frame.body, same]
    exact begins
  · rw [same]
    exact zero
  · rw [same]
    omega
  · rw [same]
    exact level

/-- What may follow a list may follow its last item. -/
theorem rest_innerFrame (after : start < e) (rest : frame.Rest stop e s) :
    (innerFrame frame start mark).Rest stop e s := by
  cases rest with
  | closed closed => exact .closed (closed_innerFrame inside after closed)
  | marked more marked =>
      exact .marked more (marked_innerFrame inside wider after marked.mark marked.level
        (Int.le_of_lt marked.outdented))

end

def groups (tight : Bool) (pairs : List (ListMark × Node)) : List (List Text) :=
  pairs.map fun pair => itemRows tight pair.1 pair.2

def isSingle (pairs : List (ListMark × Node)) : Bool :=
  (pairs.map Prod.snd).map (·.children.length) == [1]

theorem isSingle_singleton (mark : ListMark) (item : Node) :
    isSingle [(mark, item)] = decide (item.children.length = 1) := by
  by_cases single : item.children.length = 1 <;> simp [isSingle, single]

/-- Items that are read back under marks of one kind. -/
structure Rereadable (tight : Bool) (room : Nat) (ordered : Bool) (sign : Char) (mark : ListMark)
    (item : Node) : Prop where
  written : mark.Written
  kind : mark.digits.isSome = ordered
  sign : mark.sign = sign
  head : HeadProse tight item
  rereads : ItemRereads tight room item
  last : ∀ row, (itemRows tight mark item).getLast? = some row → row.dropWhile isIndent ≠ []

section

variable {tight ordered : Bool} {sign : Char} {room fuel : Nat} {item : Node}

/-- The first line of an item follows its mark. -/
theorem itemRows_eq_cons (head : HeadProse tight item) (mark : ListMark) :
    ∃ line below, itemRows tight mark item = (mark.text ++ ' ' :: line) :: below ∧ IsProse line := by
  obtain ⟨line, below, stacked, prose⟩ := head
  refine ⟨line, below.map (Text.leadLine (List.replicate (mark.length + 1) ' ')), ?_, prose⟩
  rw [itemRows, stacked, Text.leadFrom, Text.leadLine_of_ne prose.solid.ne_nil, List.append_assoc]
  rfl

/-- An item does not end with a blank line if its blocks do not. -/
theorem getLast?_itemRows (head : HeadProse tight item) (written : mark.Written)
    (ends : ∀ row, (Text.stack (!tight) (item.children.map Node.rows)).getLast? = some row →
      row.dropWhile isIndent ≠ []) {row : Text}
    (last : (itemRows tight mark item).getLast? = some row) : row.dropWhile isIndent ≠ [] := by
  obtain ⟨line, below, stacked, prose⟩ := head
  rw [stacked] at ends
  rw [itemRows, stacked] at last
  rcases Text.getLast?_leadFrom last with ⟨first, here, rfl⟩ | ⟨old, here, rfl⟩
  · obtain rfl : line = first := by simpa using here
    rw [Text.leadLine_of_ne prose.solid.ne_nil, List.append_assoc, (written.solid _).dropWhile]
    exact (written.solid _).ne_nil
  · exact Text.filled_leadLine (ends old here)

/-- The frame inside an item begins after the indentation of the list. -/
theorem wider_innerFrame (rereadable : Rereadable tight room ordered sign mark item)
    (shows : frame.Shows columns start (itemRows tight mark item)) :
    start < frame.lines.length ∧ frame.indent < (innerFrame frame start mark).indent := by
  obtain ⟨line, below, stacked, prose⟩ := rereadable.head
  rw [itemRows, stacked] at shows
  have inner := shows_innerFrame rereadable.written prose.solid shows
  rw [Text.leadFrom, Text.leadLine_of_ne prose.solid.ne_nil, List.append_assoc] at shows
  refine ⟨Frame.lt_length_of_body (shows.solid (rereadable.written.solid _)).filled, ?_⟩
  rw [inner.indent, shows.indent]
  omega

end

/-- What stands between an item and the next one: reading goes on at the mark of the next item, which is
outside of the item before, and an empty line is met in a loose list only. -/
structure Between (frame : Frame) (tight : Bool) (mark : ListMark) (start e s stop : Nat) : Prop where
  rest : (innerFrame frame start mark).Rest stop e s
  closed : tight = false → (innerFrame frame start mark).Closed stop e s
  outside : (innerFrame frame start mark).isOutdented s = true
  empty : (decide (1 < s - start) && frame.isEmpty (s - 1)) = !tight

section

variable {tight ordered : Bool} {sign : Char} {room fuel : Nat} {item nextItem : Node} {next : ListMark}
  {pairs : List (ListMark × Node)}

/-- Items begin with the mark of the first one. -/
theorem exists_stack_groups (head : HeadProse tight item) (mark : ListMark)
    (pairs : List (ListMark × Node)) :
    ∃ line below, Text.stack (!tight) (groups tight ((mark, item) :: pairs)) =
      (mark.text ++ ' ' :: line) :: below ∧ IsProse line := by
  obtain ⟨line, first, rows, prose⟩ := itemRows_eq_cons head mark
  obtain ⟨below, stacked⟩ := Text.exists_stack_cons (!tight) (itemRows tight mark item) (groups tight pairs)
  refine ⟨line, first ++ below, ?_, prose⟩
  rw [← List.cons_append, ← rows, ← stacked]
  rfl

/-- The lines below an item show the mark of the next one, directly or after an empty line, and the mark is
not indented far enough to be inside. -/
theorem between_of_next (one : Rereadable tight room ordered sign mark item)
    (two : Rereadable tight room ordered sign next nextItem)
    (shows : frame.Shows columns start
      (Text.stack (!tight) (groups tight ((mark, item) :: (next, nextItem) :: pairs))))
    (inside : start + (itemRows tight mark item).length + (!tight).toNat < stop) :
    Between frame tight mark start (start + (itemRows tight mark item).length)
      (start + (itemRows tight mark item).length + (!tight).toNat) stop := by
  have below : frame.Shows columns (start + (itemRows tight mark item).length + (!tight).toNat)
      (Text.stack (!tight) (groups tight ((next, nextItem) :: pairs))) := shows.stack_tail
  obtain ⟨line, more, begins, -⟩ := exists_stack_groups two.head next pairs
  rw [begins] at below
  have solid := below.solid (two.written.solid _)
  replace shows : frame.Shows columns start (itemRows tight mark item ++
      ((if !tight then [[]] else []) ++
        Text.stack (!tight) (groups tight ((next, nextItem) :: pairs)))) := shows
  obtain ⟨within, wider⟩ := wider_innerFrame one shows.left
  obtain ⟨first, rest, rows, -⟩ := itemRows_eq_cons one.head mark
  have height : 0 < (itemRows tight mark item).length := by simp [rows]
  have zero : 0 ≤ frame.indent := by
    rw [shows.indent]
    omega
  cases tight with
  | true =>
      -- The mark follows directly, and it is what ends the item.
      simp only [Bool.not_true, Bool.toNat_false, Nat.add_zero] at inside solid ⊢
      have level : (frame.line (start + (itemRows true mark item).length)).indent ≤ frame.indent :=
        Int.le_of_eq solid.level
      refine ⟨.marked inside (marked_innerFrame within wider (by omega) ?_ ?_ level),
        (fun other => by cases other), isOutdented_innerFrame within wider (by omega) level, ?_⟩
      · rw [solid.body, (two.written.read?_eq line).2]
        rfl
      · rw [solid.level]
        exact zero
      · have found := List.getElem?_eq_getElem
          (show (itemRows true mark item).length - 1 < (itemRows true mark item).length by omega)
        have shown := shows.left.shown _ _ found
        rw [← Nat.add_sub_assoc (show 1 ≤ (itemRows true mark item).length by omega)] at shown
        rw [← List.getLast?_eq_getElem?] at found
        rw [Frame.isEmpty, shown.isEmpty_eq, List.isEmpty_eq_false_iff.2 (one.last _ found)]
        simp
  | false =>
      simp only [Bool.not_false, Bool.toNat_true] at inside solid ⊢
      have empty : frame.isEmpty (start + (itemRows false mark item).length) = true := by
        rw [Frame.isEmpty, shows.right.head.isEmpty_eq]
        rfl
      have closed := @closed_innerFrame frame mark start stop _ _ within (by omega)
        (.spaced empty inside solid.filled)
      refine ⟨.closed closed, fun _ => closed,
        isOutdented_innerFrame within wider (by omega) (Int.le_of_eq solid.level), ?_⟩
      have long : 1 < start + (itemRows false mark item).length + 1 - start := by omega
      simp [long, empty]

theorem spellsItem_element {reading : Reading} (sameSign : mark.sign = sign) (start : Nat)
    (spells : List.Forall₂ Spells reading.elements item.children) :
    SpellsItem sign (element mark start reading) item :=
  ⟨rfl, by rw [← sameSign]; rfl, spells⟩

/-- **An item is read up to the next one**, where the list goes on. -/
theorem readItem_next (one : Rereadable tight room ordered sign mark item)
    (two : Rereadable tight room ordered sign next nextItem)
    (ready : frame.Ready options (room + 2) fuel stop)
    (shows : frame.Shows columns start
      (Text.stack (!tight) (groups tight ((mark, item) :: (next, nextItem) :: pairs))))
    (inside : start + (itemRows tight mark item).length + (!tight).toNat < stop) :
    ∃ elements,
      readItem (Block.readBlocks options fuel) frame [] start stop mark =
        { elements, stop := start + (itemRows tight mark item).length + (!tight).toNat, definitions := []
          tight := tight || decide (item.children.length = 1) } ∧
      List.Forall₂ Spells elements item.children ∧
      nextMark? options frame mark (start + (itemRows tight mark item).length + (!tight).toNat) stop =
        some next := by
  have between := between_of_next one two shows inside
  obtain ⟨elements, read, spells⟩ := one.rereads options fuel frame columns start stop _ mark one.written
    ready (Frame.Shows.left shows) (by omega) between.rest between.closed fun _ => between.outside
  refine ⟨elements, read, spells, ?_⟩
  obtain ⟨line, more, begins, prose⟩ := exists_stack_groups two.head next pairs
  have below : frame.Shows columns (start + (itemRows tight mark item).length + (!tight).toNat)
      (Text.stack (!tight) (groups tight ((next, nextItem) :: pairs))) := shows.stack_tail
  rw [begins] at below
  exact ListMark.nextMark?_of_solid two.written prose (by rw [two.kind, one.kind])
    (by rw [two.sign, one.sign]) (below.solid (two.written.solid _)) inside

/-- **Items are read back one after the other**, up to a line that does not continue the list. -/
theorem readItems_eq (loose : Bool) {count : Nat}
    (each : ∀ pair ∈ pairs, Rereadable tight room ordered sign pair.1 pair.2)
    (ready : frame.Ready options (room + 2) fuel stop)
    (shows : frame.Shows columns start (Text.stack (!tight) (groups tight pairs)))
    (inside : start + (Text.stack (!tight) (groups tight pairs)).length ≤ stop)
    (rest : frame.Rest stop (start + (Text.stack (!tight) (groups tight pairs)).length) s)
    (closed : tight = false →
      frame.Closed stop (start + (Text.stack (!tight) (groups tight pairs)).length) s)
    (level : s < stop → (frame.line s).indent ≤ frame.indent)
    (ends : ∀ mark : ListMark, mark.digits.isSome = ordered → mark.sign = sign →
      nextMark? options frame mark s stop = none)
    (enough : pairs.length ≤ count) (first : pairs.head?.map Prod.fst = some mark) :
    ∃ elements,
      readItems (Block.readBlocks options fuel) options frame count [] start stop mark loose =
        { elements, stop := s, definitions := [], tight := !loose && (tight || isSingle pairs) } ∧
      List.Forall₂ (SpellsItem sign) elements (pairs.map Prod.snd) := by
  induction pairs generalizing start count mark loose with
  | nil => cases first
  | cons pair pairs ih =>
      obtain ⟨head, item⟩ := pair
      obtain rfl : head = mark := by simpa using first
      obtain ⟨one, others⟩ := List.forall_mem_cons.1 each
      replace one : Rereadable tight room ordered sign head item := one
      obtain ⟨left, rfl⟩ : ∃ left, count = left + 1 := ⟨count - 1, by
        rw [List.length_cons] at enough
        omega⟩
      -- What follows the last item ends the list; after any other one stands the mark of the next.
      cases pairs with
      | nil =>
          simp only [groups, List.map_cons, List.map_nil, Text.stack] at shows inside rest closed
          obtain ⟨line, below, rows, prose⟩ := itemRows_eq_cons one.head head
          have height : 0 < (itemRows tight head item).length := by simp [rows]
          have bounds := rest.le
          obtain ⟨within, wider⟩ := wider_innerFrame one shows
          obtain ⟨elements, read, spells⟩ := one.rereads options fuel frame columns start stop s head
            one.written ready shows inside (rest_innerFrame within wider (by omega) rest)
            (fun loose => closed_innerFrame within (by omega) (closed loose))
            (fun more => isOutdented_innerFrame within wider (by omega) (level more))
          have spelled : SpellsItem sign (element head start
              (readItem (Block.readBlocks options fuel) frame [] start stop head)) item :=
            spellsItem_element one.sign start (by rw [read]; exact spells)
          refine ⟨_, ?_, .cons spelled .nil⟩
          simp only [readItems, read, ends head one.kind one.sign, isSingle_singleton]
          rw [Bool.and_comm]
      | cons next pairs =>
          obtain ⟨nextMark, nextItem⟩ := next
          have two : Rereadable tight room ordered sign nextMark nextItem :=
            others _ (List.mem_cons_self ..)
          obtain ⟨line, more, begins, -⟩ := exists_stack_groups two.head nextMark pairs
          have height : 0 <
              (Text.stack (!tight) (groups tight ((nextMark, nextItem) :: pairs))).length := by
            rw [begins]
            exact Nat.succ_pos _
          have sum : start + (Text.stack (!tight)
                (groups tight ((head, item) :: (nextMark, nextItem) :: pairs))).length =
              start + (itemRows tight head item).length + (!tight).toNat +
                (Text.stack (!tight) (groups tight ((nextMark, nextItem) :: pairs))).length := by
            have := Text.length_stack_cons_cons (!tight) (itemRows tight head item)
              (itemRows tight nextMark nextItem) (groups tight pairs)
            simp only [groups, List.map_cons] at this ⊢
            omega
          rw [sum] at inside rest closed
          have step : start + (itemRows tight head item).length + (!tight).toNat < stop := by omega
          have between := between_of_next one two shows step
          obtain ⟨elements, read, spells, goesOn⟩ := readItem_next one two ready shows step
          obtain ⟨others, readOthers, spellsOthers⟩ := @ih nextMark _ (!tight) left others
            shows.stack_tail inside rest closed (by simpa using enough) rfl
          have spelled : SpellsItem sign (element head start
              (readItem (Block.readBlocks options fuel) frame [] start stop head)) item :=
            spellsItem_element one.sign start (by rw [read]; exact spells)
          refine ⟨_, ?_, .cons spelled spellsOthers⟩
          simp only [readItems, read, goesOn, endsEmpty, between.empty, readOthers]
          cases tight <;> simp [isSingle]

end

end Items

/-! ## Lists -/

def markOf (kind : Kind) (sign : Char) (number : Nat) : ListMark :=
  if kind = .orderedList then { digits := some (Text.ofNat number), sign }
  else { digits := none, sign }

/-- Items with their marks, numbered from a first one. -/
def markItems (kind : Kind) (sign : Char) : Nat → List Node → List (ListMark × Node)
  | _, [] => []
  | number, item :: items => (markOf kind sign number, item) :: markItems kind sign (number + 1) items

def firstMark (node : Node) : ListMark := markOf node.kind node.sign node.firstNumber.toNat

def markedItems (node : Node) : List (ListMark × Node) :=
  markItems node.kind node.sign node.firstNumber.toNat node.children

/-- The items of a list can be marked: with hyphens, or with numbers of at most nine digits and one
sign. -/
@[mk_iff]
inductive Enumerates (node : Node) : Prop
  | bullets (kind : node.kind = .bulletList)
  | numbers (kind : node.kind = .orderedList) (positive : 0 ≤ node.firstNumber)
      (short : node.firstNumber + node.children.length ≤ 1000000000)
      (ends : node.sign = '.' ∨ node.sign = ')')
      (markup : ∀ item ∈ node.children, item.markup = [node.sign])

instance (node : Node) : Decidable (Enumerates node) := decidable_of_iff' _ (enumerates_iff node)

theorem isAsciiDigit_of_isDigit {c : Char} (digit : c.isDigit = true) : isAsciiDigit c = true := by
  simpa [Char.isDigit, isAsciiDigit, Char.le_def] using digit

theorem written_number {n : Nat} {sign : Char} (short : n < 1000000000)
    (ends : sign = '.' ∨ sign = ')') : ListMark.Written { digits := some (Text.ofNat n), sign } := by
  refine .ordered (fun c member => ?_) ?_ ?_ ends
  · exact isAsciiDigit_of_isDigit (Nat.isDigit_of_mem_toDigits (by decide) (by decide) member)
  · exact Nat.toDigits_ne_nil
  · exact (Nat.length_toDigits_le_iff (by decide) (by decide)).2 short

theorem number_eq (n : Nat) (sign : Char) :
    ListMark.number { digits := some (Text.ofNat n), sign } = n :=
  Nat.ofDigitChars_toDigits (by decide) (by decide)

theorem map_markItems (kind : Kind) (sign : Char) (n : Nat) (items : List Node) :
    (markItems kind sign n items).map Prod.snd = items := by
  induction items generalizing n with
  | nil => rfl
  | cons item items ih => rw [markItems, List.map_cons, ih]

/-- Numbers go up by one, so the last is known from the first and the number of items. -/
theorem mem_markItems {kind : Kind} {sign : Char} {n : Nat} {items : List Node}
    {pair : ListMark × Node} (member : pair ∈ markItems kind sign n items) :
    pair.2 ∈ items ∧ ∃ number, pair.1 = markOf kind sign number ∧ number < n + items.length := by
  induction items generalizing n with
  | nil => cases member
  | cons item items ih =>
      rw [List.length_cons]
      rcases List.mem_cons.1 member with rfl | member
      · exact ⟨List.mem_cons_self .., n, rfl, by omega⟩
      · obtain ⟨memberItem, number, mark, small⟩ := ih member
        exact ⟨List.mem_cons_of_mem _ memberItem, number, mark, by omega⟩

section

variable {kind : Kind} {sign : Char}

/-- The text before an item is its mark and a space. -/
theorem marker_eq {number : Nat} {markup : Text}
    (shape : kind = .bulletList ∧ sign = '-' ∨ kind = .orderedList ∧ markup = [sign]) :
    Render.marker kind number markup = (markOf kind sign number).text ++ [' '] := by
  rcases shape with ⟨rfl, rfl⟩ | ⟨rfl, rfl⟩ <;> rfl

/-- The lines of an item under its mark. -/
theorem lines_item (tight : Bool) {item : Node} {number : Nat}
    (shape : kind = .bulletList ∧ sign = '-' ∨ kind = .orderedList ∧ item.markup = [sign])
    (filled : item.children ≠ []) (written : (markOf kind sign number).Written) :
    Text.lines (Render.item (Render.marker kind number item.markup)
        (Text.joinWith (Render.gap tight) (renderAll item.children))) =
      itemRows tight (markOf kind sign number) item := by
  have blocks : Text.lines (Text.joinWith (Render.gap tight) (renderAll item.children)) =
      Text.stack (!tight) (item.children.map Node.rows) := by
    rw [Text.lines_joinWith_gap tight (by rw [renderAll_eq]; simpa using filled), renderAll_eq,
      List.map_map]
    rfl
  have width : ((markOf kind sign number).text ++ [' ']).length =
      (markOf kind sign number).length + 1 := by
    rw [List.length_append, ListMark.length_text, List.length_singleton]
  rw [Render.item, marker_eq shape, Text.lines_indentFrom, blocks, width, itemRows]
  · simpa using written.plain.2
  · simp

/-- The marks that rendering writes are those under which the items are read back. -/
theorem lines_items (tight : Bool) {items : List Node} (number : Nat)
    (shape : ∀ item ∈ items, kind = .bulletList ∧ sign = '-' ∨ kind = .orderedList ∧ item.markup = [sign])
    (filled : ∀ item ∈ items, item.children ≠ [])
    (written : ∀ pair ∈ markItems kind sign number items, pair.1.Written) :
    (Render.items kind tight number (renderItems items)).map Text.lines =
      Items.groups tight (markItems kind sign number items) := by
  induction items generalizing number with
  | nil => rfl
  | cons item items ih =>
      obtain ⟨shapeItem, shapeItems⟩ := List.forall_mem_cons.1 shape
      obtain ⟨filledItem, filledItems⟩ := List.forall_mem_cons.1 filled
      rw [markItems] at written
      obtain ⟨writtenItem, writtenItems⟩ := List.forall_mem_cons.1 written
      rw [renderItems_eq, List.map_cons, Render.items, List.map_cons,
        lines_item tight shapeItem filledItem writtenItem, markItems, Items.groups, List.map_cons,
        ← renderItems_eq]
      exact congrArg _ (ih (number + 1) shapeItems filledItems writtenItems)

end

variable {node : Node}

namespace Enumerates

theorem isList (enumerates : Enumerates node) : node.kind.isList = true := by
  cases enumerates with
  | bullets kind => rw [kind]; rfl
  | numbers kind positive short ends markup => rw [kind]; rfl

/-- Every item of a list has a mark that is read as it is written. -/
theorem mark (enumerates : Enumerates node) {pair : ListMark × Node}
    (member : pair ∈ markedItems node) :
    pair.1.Written ∧ pair.1.digits.isSome = (node.kind == .orderedList) ∧ pair.1.sign = node.sign := by
  obtain ⟨-, number, mark, small⟩ := mem_markItems member
  rw [mark]
  cases enumerates with
  | bullets kind =>
      have bullet : markOf node.kind node.sign number = { digits := none, sign := '-' } := by
        simp [markOf, Node.sign, kind]
      rw [bullet, kind, Node.sign, if_pos kind]
      exact ⟨.bullet, rfl, rfl⟩
  | numbers kind positive short ends markup =>
      have ordered : markOf node.kind node.sign number =
          { digits := some (Text.ofNat number), sign := node.sign } := by
        rw [markOf, if_pos kind]
      rw [ordered, kind]
      exact ⟨written_number (by omega) ends, rfl, rfl⟩

theorem markup (enumerates : Enumerates node) (ordered : node.kind = .orderedList) :
    ∀ item ∈ node.children, item.markup = [node.sign] := by
  cases enumerates with
  | bullets kind =>
      rw [ordered] at kind
      cases kind
  | numbers kind positive short ends markup => exact markup

/-- The mark of the first item says of which kind the list is. -/
theorem kind_eq (enumerates : Enumerates node) :
    (if (firstMark node).digits.isSome then Kind.orderedList else .bulletList) = node.kind := by
  cases enumerates with
  | bullets kind => simp [firstMark, markOf, kind]
  | numbers kind positive short ends markup => simp [firstMark, markOf, kind]

/-- The number of the first item is read back. -/
theorem firstNumber_eq (enumerates : Enumerates node) (ordered : node.kind = .orderedList) :
    Element.firstNumber (if (firstMark node).digits.isSome && (firstMark node).number != 1 then
      [("start".toList, .int (firstMark node).number)] else []) = .ok node.firstNumber := by
  have number : (node.firstNumber.toNat : Int) = node.firstNumber := by
    cases enumerates with
    | bullets kind =>
        rw [ordered] at kind
        cases kind
    | numbers kind positive short ends markup => omega
  have mark : firstMark node =
      { digits := some (Text.ofNat node.firstNumber.toNat), sign := node.sign } := by
    rw [firstMark, markOf, if_pos ordered]
  rw [mark, number_eq]
  by_cases one : node.firstNumber.toNat = 1
  · rw [one] at number ⊢
    rw [← number]
    rfl
  · rw [if_pos (by simp [one])]
    exact congrArg Except.ok number

/-- The lines of a list are those of its items one below the other. -/
theorem rows_eq (enumerates : Enumerates node) (filled : node.children ≠ [])
    (items : ∀ item ∈ node.children, item.children ≠ []) :
    node.rows =
      Text.stack (!node.readsTight) (Items.groups node.readsTight (markedItems node)) := by
  have number : ∀ parts, Render.items node.kind node.readsTight node.firstNumber parts =
      Render.items node.kind node.readsTight node.firstNumber.toNat parts := by
    intro parts
    cases enumerates with
    | bullets kind => rw [kind, items_bullet, items_bullet]
    | numbers kind positive short ends markup => rw [Int.toNat_of_nonneg positive]
  have shape : ∀ item ∈ node.children, node.kind = .bulletList ∧ node.sign = '-' ∨
      node.kind = .orderedList ∧ item.markup = [node.sign] := by
    intro item member
    cases enumerates with
    | bullets kind => exact .inl ⟨kind, if_pos kind⟩
    | numbers kind positive short ends markup => exact .inr ⟨kind, markup item member⟩
  have lines := lines_items node.readsTight node.firstNumber.toNat shape items fun pair member =>
    (enumerates.mark member).1
  have some : Render.items node.kind node.readsTight node.firstNumber.toNat
      (renderItems node.children) ≠ [] := by
    obtain ⟨item, rest, shape⟩ := List.exists_cons_of_ne_nil filled
    simp [shape, renderItems_eq, Render.items]
  rw [Node.rows, Node.render_readsTight enumerates.isList, number, Text.lines_joinWith_gap _ some,
    lines]
  rfl

end Enumerates

/-- A list whose items are read back under their marks. -/
structure PlainItems (room : Nat) (node : Node) : Prop where
  enumerates : Enumerates node
  filled : node.children ≠ []
  headed : ∀ item ∈ node.children, item.IsHeaded
  head : ∀ item ∈ node.children, HeadProse node.readsTight item
  rereads : ∀ item ∈ node.children, ItemRereads node.readsTight room item
  last : ∀ item ∈ node.children, ∀ row,
    (Text.stack (!node.readsTight) (item.children.map Node.rows)).getLast? = some row →
      row.dropWhile isIndent ≠ []

namespace PlainItems

variable {room : Nat}

theorem rows_eq (plain : PlainItems room node) :
    node.rows =
      Text.stack (!node.readsTight) (Items.groups node.readsTight (markedItems node)) :=
  plain.enumerates.rows_eq plain.filled fun item member => by
    obtain ⟨head, others, shape, -⟩ := (plain.headed item member).eq_cons
    simp [shape]

theorem rereadable (plain : PlainItems room node) :
    ∀ pair ∈ markedItems node, Items.Rereadable node.readsTight room (node.kind == .orderedList)
      node.sign pair.1 pair.2 := by
  intro pair member
  obtain ⟨written, kind, same⟩ := plain.enumerates.mark member
  have item := (mem_markItems member).1
  exact ⟨written, kind, same, plain.head _ item, plain.rereads _ item, fun row =>
    Items.getLast?_itemRows (plain.head _ item) written (plain.last _ item)⟩

theorem groups_filled (plain : PlainItems room node) :
    [] ∉ Items.groups node.readsTight (markedItems node) := by
  rw [Items.groups, List.mem_map]
  rintro ⟨pair, member, empty⟩
  obtain ⟨line, below, rows, -⟩ := Items.itemRows_eq_cons (plain.rereadable pair member).head pair.1
  rw [rows] at empty
  cases empty

/-- A list begins with its first mark. -/
theorem eq_cons (plain : PlainItems room node) :
    ∃ item more line below, markedItems node = (firstMark node, item) :: more ∧
      node.rows = ((firstMark node).text ++ ' ' :: line) :: below ∧ (firstMark node).Written ∧
      IsProse line := by
  obtain ⟨item, items, shape⟩ := List.exists_cons_of_ne_nil plain.filled
  obtain ⟨more, pairs⟩ : ∃ more, markedItems node = (firstMark node, item) :: more :=
    ⟨_, by rw [markedItems, shape, markItems, firstMark]⟩
  have head := plain.head item (by rw [shape]; exact List.mem_cons_self ..)
  have written : (firstMark node).Written :=
    (@Enumerates.mark node plain.enumerates (firstMark node, item)
      (by rw [pairs]; exact List.mem_cons_self ..)).1
  obtain ⟨line, below, rows, prose⟩ := Items.itemRows_eq_cons head (firstMark node)
  obtain ⟨rest, stacked⟩ := Text.exists_stack_cons (!node.readsTight)
    (itemRows node.readsTight (firstMark node) item) (Items.groups node.readsTight more)
  refine ⟨item, more, line, below ++ rest, pairs, ?_, written, prose⟩
  rw [plain.rows_eq, pairs, ← List.cons_append, ← rows]
  exact stacked

/-- **A list is read back** if its items are. -/
theorem rereads_list (plain : PlainItems room node) : Rereads (room + 2) node := by
  intro options fuel frame columns start stop s ready shows inside rest closed parts
  obtain ⟨item, more, line, below, pairs, rows, written, prose⟩ := plain.eq_cons
  have list := plain.enumerates.isList
  have each := plain.rereadable
  have solid : frame.Solid start ((firstMark node).text ++ ' ' :: line) := by
    rw [rows] at shows
    exact shows.solid (written.solid _)
  have ends : ∀ mark : ListMark, mark.digits.isSome = (node.kind == .orderedList) →
      mark.sign = node.sign → Items.nextMark? options frame mark s stop = none := by
    intro mark kind sign
    by_cases here : s < stop
    · exact (parts.list list here).2 mark kind sign
    · rw [Items.nextMark?, if_pos (by simp [Nat.le_of_not_lt here])]
  have apart : node.readsTight = false → frame.Closed stop (start + node.rows.length) s := by
    intro loose
    rw [Node.readsTight, Bool.or_eq_false_iff] at loose
    exact closed ((Node.hugs_list list).trans loose.1)
  have enough : (markedItems node).length ≤ stop - start := by
    have := Text.length_le_stack (!node.readsTight) plain.groups_filled
    rw [← plain.rows_eq, Items.groups, List.length_map] at this
    omega
  rw [plain.rows_eq] at shows inside rest apart
  have first : (markedItems node).head?.map Prod.fst = some (firstMark node) := by
    rw [pairs]
    rfl
  obtain ⟨elements, read, spelled⟩ := Items.readItems_eq false each ready shows inside rest apart
    (fun here => (parts.list list here).1) ends enough first
  have items : (markedItems node).map Prod.snd = node.children := map_markItems ..
  have single : Items.isSingle (markedItems node) = node.isLone := by
    rw [Items.isSingle, items]
    rfl
  have tight : (node.readsTight || node.isLone) = node.readsTight := by
    rw [Node.readsTight, Bool.or_assoc, Bool.or_self]
  rw [items] at spelled
  -- The element is the one that `Items.read?` builds from the first mark.
  refine ⟨_, ?_, @spells_list node node.sign
    { kind := if (firstMark node).digits.isSome then .orderedList else .bulletList
      tag := if (firstMark node).digits.isSome then "ol".toList else "ul".toList
      attrs := if (firstMark node).digits.isSome && (firstMark node).number != 1 then
          [("start".toList, .int (firstMark node).number)]
        else []
      markup := [(firstMark node).sign]
      children := showItems node.readsTight elements
      span := some (start, s) }
    elements list plain.enumerates.kind_eq rfl rfl plain.enumerates.firstNumber_eq
    plain.enumerates.markup spelled plain.filled plain.headed⟩
  rw [ListMark.read_items _ written prose solid, read, single, Bool.not_false, Bool.true_and, tight,
    list, if_pos rfl]
  rfl

end PlainItems

end Markdown

end DocComment
