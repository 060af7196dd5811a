/- Reading back blocks and the sequences they stand in. A node is read back (`Rereads`) if, wherever its
lines are shown, reading a block there gives an element that spells the node and ends with its lines. What
may follow is part of the statement: nothing, an empty line, or the mark of an item of an enclosing list.
Nodes one below the other with empty lines between them are then read back one after the other, provided
that none of them goes on with the one before it (`Apart`, `Block.readFrom_spaced`). Quotes are such
sequences after their brackets. -/
import DocComment.Proofs.Copies

namespace DocComment

set_option autoImplicit false

def Node.rows (node : Node) : List Text := Text.lines node.render

theorem Node.rows_filled (nodes : List Node) : [] ∉ nodes.map Node.rows := by
  rw [List.mem_map]
  exact fun ⟨node, _, empty⟩ => Text.lines_ne_nil _ empty

theorem Node.length_le_stack (loose : Bool) (nodes : List Node) :
    nodes.length ≤ (Text.stack loose (nodes.map Node.rows)).length := by
  rw [← @List.length_map _ _ nodes Node.rows]
  exact Text.length_le_stack loose (rows_filled nodes)

/-- Whether a line with the mark of an item may follow a block directly. -/
def Node.hugs (node : Node) : Bool :=
  match node.kind with
  | .paragraph | .heading | .rule | .fence => true
  | .bulletList | .orderedList => node.isTight
  | _ => false

def Node.sign (node : Node) : Char :=
  if node.kind = .bulletList then '-' else (node.children.head?.bind (·.markup.head?)).getD '.'

theorem Node.hugs_list {node : Node} (list : node.kind.isList = true) : node.hugs = node.isTight := by
  cases kind : node.kind <;> simp_all [hugs, Kind.isList]

namespace Markdown

namespace Frame

/-! ## What follows a block -/

/-- A block whose lines end before a line is closed: the lines of its container end there too, or an
empty line stands between it and the next line. -/
inductive Closed (frame : Frame) (stop : Nat) : Nat → Nat → Prop
  | ending (ends : frame.limit ≤ stop ∨ frame.isEmpty stop = true) : Closed frame stop stop stop
  | spaced {e : Nat} (empty : frame.isEmpty e = true) (more : e + 1 < stop)
      (filled : frame.isEmpty (e + 1) = false) : Closed frame stop e (e + 1)

/-- A line begins with the mark of an item of an enclosing list. -/
structure Marked (frame : Frame) (n : Nat) : Prop where
  mark : (ListMark.read? (frame.body n)).isSome = true
  level : 0 ≤ (frame.line n).indent
  outdented : (frame.line n).indent < frame.indent
  shallow : (frame.line n).indent ≤ frame.listIndent

/-- What may follow the lines of a block, and the line from which reading goes on. -/
inductive Rest (frame : Frame) (stop : Nat) : Nat → Nat → Prop
  | closed {e s : Nat} (closed : frame.Closed stop e s) : Rest frame stop e s
  | marked {e : Nat} (more : e < stop) (marked : frame.Marked e) : Rest frame stop e e

variable {frame : Frame} {stop e s : Nat}

theorem Marked.filled {n : Nat} (marked : frame.Marked n) : frame.isEmpty n = false := by
  have mark := marked.mark
  cases body : (frame.line n).body with
  | nil =>
      rw [Frame.body, body] at mark
      cases mark
  | cons c rest => simp [Frame.isEmpty, Line.isEmpty, body]

/-- The mark stands left of the container, and there a list interrupts a paragraph whatever its mark is. -/
theorem Marked.stops {n : Nat} (marked : frame.Marked n) (options : Options) :
    frame.Stops options n := by
  have outdented : frame.isOutdented n = true := by simp [Frame.isOutdented, marked.outdented]
  have shallow : frame.isCode n = false := by
    have := marked.outdented
    simp only [Frame.isCode, decide_eq_false_iff_not]
    omega
  have itself : ListMark.isContinuation frame n = false := by
    have := marked.shallow
    have short : ¬ (4 ≤ (frame.line n).indent - frame.listIndent) := by omega
    simp [ListMark.isContinuation, short]
  refine .interrupted marked.filled shallow marked.level (.inl outdented) ?_
  obtain ⟨mark, read⟩ := Option.isSome_iff_exists.1 marked.mark
  simp [interrupts, ListMark.starts?, shallow, itself, read, outdented]

theorem Rest.stops (rest : frame.Rest stop e s) (options : Options) : frame.Stops options e := by
  cases rest with
  | closed closed =>
      cases closed with
      | ending ends => exact ends.elim .limit .empty
      | spaced empty more filled => exact .empty empty
  | marked more marked => exact marked.stops options

theorem Rest.le (rest : frame.Rest stop e s) : e ≤ s ∧ s ≤ stop := by
  cases rest with
  | closed closed =>
      cases closed with
      | ending ends => omega
      | spaced empty more filled => omega
  | marked more marked => omega

/-- Where a container ends, there is nothing more to read in it. -/
theorem Rest.done (rest : frame.Rest stop e s) (outside : s < stop → frame.isOutdented s = true) :
    stop ≤ s ∨ frame.isEmpty s = false ∧ frame.isOutdented s = true := by
  cases rest with
  | closed closed =>
      cases closed with
      | ending ends => exact .inl (Nat.le_refl _)
      | spaced empty more filled => exact .inr ⟨filled, outside more⟩
  | marked more marked => exact .inr ⟨marked.filled, outside more⟩

/-! ## Single blocks -/

/-- A frame in which blocks with some room can be read up to a line, with some fuel, and where commands
are understood. -/
structure Ready (frame : Frame) (options : Options) (room fuel stop : Nat) : Prop where
  commands : options.commands = true
  bound : stop ≤ frame.limit
  inside : frame.limit ≤ frame.lines.length
  depth : frame.depth + room ≤ maxDepth
  fuel : maxDepth ≤ fuel + frame.depth

/-- Inside a container there is less room and less fuel. -/
theorem Ready.deeper {options : Options} {inner : Frame} {room fuel levels last : Nat}
    (ready : frame.Ready options (room + levels) fuel stop) (some : 0 < levels)
    (depth : inner.depth = frame.depth + levels) (bound : last ≤ inner.limit)
    (inside : inner.limit ≤ inner.lines.length) :
    ∃ less, fuel = less + 1 ∧ inner.Ready options room less last := by
  have space := ready.depth
  have enough := ready.fuel
  refine ⟨fuel - 1, by omega, ready.commands, bound, inside, ?_, ?_⟩
  · rw [depth]
    omega
  · rw [depth]
    omega

/-- What comes after a block does not go on with it: no item with the same mark after a list and nothing
that is indented further, no code after code. -/
structure Parts (options : Options) (frame : Frame) (node : Node) (s stop : Nat) : Prop where
  list : node.kind.isList = true → s < stop → (frame.line s).indent ≤ frame.indent ∧
    ∀ mark : ListMark, mark.digits.isSome = (node.kind == .orderedList) → mark.sign = node.sign →
      Items.nextMark? options frame mark s stop = none
  code : node.kind = .codeBlock → s < stop → frame.isCode s = false

end Frame

/-- A node is read back from its lines, wherever they stand and whatever follows that does not belong to
it. -/
def Rereads (room : Nat) (node : Node) : Prop :=
  ∀ (options : Options) (fuel : Nat) (frame : Frame) (columns start stop s : Nat),
    frame.Ready options room fuel stop → frame.Shows columns start node.rows →
    start + node.rows.length ≤ stop → frame.Rest stop (start + node.rows.length) s →
    (node.hugs = false → frame.Closed stop (start + node.rows.length) s) →
    frame.Parts options node s stop →
    ∃ element,
      Block.read (Block.readBlocks options fuel) options frame [] start stop =
        { elements := [element]
          stop := if node.kind.isList then s else start + node.rows.length
          definitions := [] } ∧
      Spells element node

variable {room : Nat} {node : Node}

theorem rereads_paragraph (paragraph : node.kind = .paragraph) (lines : IsParagraph node.rows)
    (settled : node.render.IsSettled) : Rereads room node := by
  intro options fuel frame columns start stop s ready shows inside rest closed parts
  have bound := ready.bound
  have read := Block.read_paragraph (Block.readBlocks options fuel) [] lines shows (by omega) bound
    (rest.stops options)
  have text : Text.unlines node.rows = node.render := Text.unlines_lines _
  refine ⟨_, ?_, spells_paragraph paragraph settled start (start + node.rows.length)⟩
  rw [read, text, paragraph]
  rfl

theorem rows_heading (heading : node.kind = .heading) (line : '\n' ∉ renderInlines node.children) :
    node.rows = [List.replicate node.level.toNat '#' ++ ' ' :: renderInlines node.children] := by
  have text : node.render =
      List.replicate node.level.toNat '#' ++ ' ' :: renderInlines node.children := by
    rw [Node.render_other (by rw [heading]; rfl)]
    simp [Render.assemble, heading, renderInlines]
  rw [Node.rows, text, Text.lines_eq_singleton]
  simp [line]

/-- A heading is one line, so nothing is asked of what follows it. -/
theorem rereads_heading {level : Nat} (heading : node.kind = .heading) (levels : node.level = level)
    (positive : 1 ≤ level) (small : level ≤ 6) (title : IsTitle (renderInlines node.children))
    (settled : (renderInlines node.children).IsSettled) : Rereads room node := by
  intro options fuel frame columns start stop s ready shows inside rest closed parts
  have rows := rows_heading heading title.line
  rw [levels, Int.toNat_natCast] at rows
  rw [rows] at shows ⊢
  refine ⟨_, ?_, spells_heading heading levels positive small settled (List.replicate level '#') start
    (start + 1) (start + 1)⟩
  rw [Block.read_heading _ _ positive small title shows, heading]
  rfl

theorem rows_rule (rule : node.kind = .rule) : node.rows = [['-', '-', '-']] := by
  rw [Node.rows, Node.render_other (by rw [rule]; rfl)]
  simp only [Render.assemble, rule]
  rfl

theorem rereads_rule (rule : node.kind = .rule) : Rereads room node := by
  intro options fuel frame columns start stop s ready shows inside rest closed parts
  have rows := rows_rule rule
  rw [rows] at shows ⊢
  refine ⟨_, ?_, spells_rule rule (List.replicate 4 '-') (some (start, start + 1))⟩
  rw [Block.read_rule _ _ shows, rule]
  rfl

theorem rows_fence (fence : node.kind = .fence) (line : '\n' ∉ node.fenceMarks ++ node.info) :
    node.rows = (node.fenceMarks ++ node.info) :: (node.codeLines ++ [node.fenceMarks]) := by
  have text : node.render = (node.fenceMarks ++ node.info) ++
      '\n' :: (Render.dropNewlines node.content ++ '\n' :: node.fenceMarks) := by
    rw [Node.render_other (by rw [fence]; rfl)]
    simp [Render.assemble, fence, Node.fenceMarks]
  have marks : '\n' ∉ node.fenceMarks := fun member => line (List.mem_append_left _ member)
  rw [Node.rows, text, Text.lines_append_newline, Text.lines_append_newline,
    Text.lines_eq_singleton line, Text.lines_eq_singleton marks]
  rfl

/-- A fence is read up to the line that closes it, whatever follows. -/
theorem rereads_fence {opening : Fence.Opening} (fence : node.kind = .fence)
    (marks : node.fenceMarks = opening.marks) (info : node.info = opening.info)
    (isFence : IsFence opening node.codeLines) : Rereads room node := by
  intro options fuel frame columns start stop s ready shows inside rest closed parts
  have line : '\n' ∉ node.fenceMarks ++ node.info := by
    rw [marks, info]
    exact isFence.free
  have filled : node.fenceMarks ≠ [] := by
    have := isFence.long
    simp only [marks, Fence.Opening.marks, ne_eq, List.replicate_eq_nil_iff]
    omega
  have rows := rows_fence fence line
  have height : node.rows.length = node.codeLines.length + 2 := by simp [rows]
  rw [rows, marks, info] at shows
  refine ⟨_, ?_, spells_fence fence filled (some (start, start + node.codeLines.length + 2))⟩
  rw [Block.read_fence _ _ isFence shows (by omega), fence, marks, info, height]
  rfl

theorem rows_code (code : node.kind = .codeBlock) :
    node.rows = node.codeLines.map (Text.leadLine CodeBlock.lead) := by
  have text : node.render = Text.indentAll CodeBlock.lead (Render.dropNewlines node.content) := by
    rw [Node.render_other (by rw [code]; rfl)]
    simp only [Render.assemble, code]
    rfl
  rw [Node.rows, text, Text.lines_indentAll (by decide), Node.codeLines]

/-- Code goes on over empty lines, so what follows must not be code. -/
theorem rereads_code (code : node.kind = .codeBlock) (isCode : IsCode node.codeLines) :
    Rereads room node := by
  intro options fuel frame columns start stop s ready shows inside rest closed parts
  have rows := rows_code code
  have height : node.rows.length = node.codeLines.length := by simp [rows]
  have apart := closed (by simp [Node.hugs, code])
  rw [height] at inside apart ⊢
  rw [rows] at shows
  have ends : CodeBlock.Ends frame (start + node.codeLines.length) stop := by
    generalize start + node.codeLines.length = e at apart
    cases apart with
    | ending ends => exact .inl rfl
    | spaced empty more filled => exact .inr ⟨empty, filled, parts.code code more⟩
  refine ⟨_, ?_, spells_code code (some (start, start + node.codeLines.length))⟩
  rw [Block.read_code _ _ isCode shows inside ends, code]
  rfl

/-! ## Sequences -/

/-- The first line of a block is not blank; it is indented only in code, and begins with a mark only in a
list, with the mark of its items. -/
structure Starts (node : Node) : Prop where
  row : ∃ row rest, node.rows = row :: rest ∧ row.dropWhile isIndent ≠ [] ∧
    (node.kind ≠ .codeBlock → row.IsSolid) ∧
    (∀ mark, ListMark.bullet? row = some mark → node.kind = .bulletList) ∧
    (∀ mark, ListMark.ordered? row = some mark → node.kind = .orderedList ∧ mark.sign = node.sign)

/-- A block does not go on with the block before it: after a list comes no list with the same marks and
no code, after code no code. -/
@[mk_iff]
structure Apart (node next : Node) : Prop where
  list : node.kind.isList = true →
    next.kind ≠ .codeBlock ∧ ¬ (next.kind = node.kind ∧ next.sign = node.sign)
  code : node.kind = .codeBlock → next.kind ≠ .codeBlock

instance : DecidableRel Apart := fun node next => decidable_of_iff' _ (apart_iff node next)

/-- A block that is no list begins with no mark. -/
theorem starts_of_unmarked {row : Text} {rest : List Text} (rows : node.rows = row :: rest)
    (filled : row.dropWhile isIndent ≠ []) (solid : node.kind ≠ .codeBlock → row.IsSolid)
    (unmarked : ListMark.read? row = none) : Starts node := by
  obtain ⟨ordered, bullet⟩ : ListMark.ordered? row = none ∧ ListMark.bullet? row = none := by
    cases ordered : ListMark.ordered? row with
    | none => exact ⟨rfl, by simpa [ListMark.read?, ordered] using unmarked⟩
    | some found => simp [ListMark.read?, ordered] at unmarked
  refine ⟨row, rest, rows, filled, solid, fun mark read => ?_, fun mark read => ?_⟩
  · rw [bullet] at read
    cases read
  · rw [ordered] at read
    cases read

section

variable {options : Options} {frame : Frame} {columns n stop s : Nat}

theorem Starts.filled (starts : Starts node) (shows : frame.Shows columns n node.rows) :
    frame.isEmpty n = false ∧ frame.isOutdented n = false := by
  obtain ⟨row, rest, rows, filled, -⟩ := starts.row
  rw [rows] at shows
  exact shows.filled filled

/-- A block that is apart from the one after it ends before that. -/
theorem Apart.parts {next : Node} (apart : Apart node next) (starts : Starts next)
    (shows : frame.Shows columns n next.rows) : frame.Parts options node n stop := by
  obtain ⟨row, rest, rows, filled, solid, bullet, ordered⟩ := starts.row
  rw [rows] at shows
  refine ⟨fun list _ => ?_, fun code _ => (shows.solid (solid (apart.code code))).isCode⟩
  obtain ⟨noCode, other⟩ := apart.list list
  have line := shows.solid (solid noCode)
  refine ⟨Int.le_of_eq line.level, fun mark kind sign => ?_⟩
  have ends : mark.next? (frame.body n) = none := by
    rw [ListMark.next?, line.body, kind, Option.filter_eq_none_iff, sign]
    intro found read
    cases shape : node.kind with
    | bulletList =>
        have same := bullet found (by simpa [shape] using read)
        exact absurd ⟨same.trans shape.symm, by simp [Node.sign, same, shape]⟩ other
    | orderedList =>
        obtain ⟨same, signNext⟩ := ordered found (by simpa [shape] using read)
        rw [signNext, beq_iff_eq]
        exact fun equal => other ⟨same.trans shape.symm, equal⟩
    | _ => simp [shape, Kind.isList] at list
  rw [Items.nextMark?, ends, ite_self]

/-- Nothing goes on after the last block of a container. -/
theorem parts_of_outside (outside : s < stop → frame.isOutdented s = true) :
    frame.Parts options node s stop := by
  refine ⟨fun _ more => ?_, fun _ more => ?_⟩
  · have outdented := outside more
    refine ⟨?_, fun mark _ _ => by simp [Items.nextMark?, outdented]⟩
    simp only [Frame.isOutdented, decide_eq_true_eq] at outdented
    omega
  · have outdented := outside more
    simp only [Frame.isOutdented, decide_eq_true_eq] at outdented
    simp only [Frame.isCode, decide_eq_false_iff_not]
    omega

end

namespace Block

variable {inner : Reader} {options : Options} {frame : Frame} {columns n stop e s count : Nat}
  {spaced tight : Bool}

theorem skipEmpty_filled (filled : frame.isEmpty n = false) : frame.skipEmpty n = n := by
  unfold Frame.skipEmpty
  cases frame.limit - n with
  | zero => rfl
  | succ left => simp [Frame.skipEmptyUpTo, filled]

/-- Reading ends at the end of the lines, and at a line that is indented less. -/
theorem readFrom_done (definitions : Definitions)
    (done : stop ≤ s ∨ frame.isEmpty s = false ∧ frame.isOutdented s = true) :
    readFrom inner options frame count definitions s stop spaced tight =
      { stop := s, definitions, tight } := by
  cases count with
  | zero => rfl
  | succ count =>
      rcases done with ends | ⟨filled, outdented⟩
      · rw [readFrom, if_pos ends]
      · simp [readFrom, skipEmpty_filled filled, outdented]

/-- Whether an empty line has been met once a block is read up to a line. -/
def gapAfter (frame : Frame) (stop next : Nat) (spaced : Bool) : Bool :=
  spaced || (next - 1 < stop && frame.isEmpty (next - 1)) || (next < stop && frame.isEmpty next)

/-- One block of a sequence, and the blocks from where reading goes on. -/
theorem readFrom_block {element : Element} {next : Nat} (inside : n < stop)
    (filled : frame.isEmpty n = false) (level : frame.isOutdented n = false)
    (depth : frame.depth < maxDepth)
    (block : read inner options frame [] n stop =
      { elements := [element], stop := next, definitions := [] }) :
    readFrom inner options frame (count + 1) [] n stop spaced tight =
      (let reading := readFrom inner options frame count []
        (if next < stop && frame.isEmpty next then next + 1 else next) stop
        (gapAfter frame stop next spaced) (!spaced)
      { reading with elements := element :: reading.elements }) := by
  have deep : ¬ maxDepth ≤ frame.depth := by omega
  have here : ¬ (stop ≤ n) := by omega
  simp only [readFrom, skipEmpty_filled filled, here, level, deep, block, decide_false, Bool.false_or,
    Bool.false_eq_true, if_false]
  rfl

/-- Reading goes on from the line that follows the block, with the empty line between them skipped. -/
theorem next_of_rest (rest : frame.Rest stop e s) (list : Bool) :
    (if (if list then s else e) < stop && frame.isEmpty (if list then s else e) then
      (if list then s else e) + 1 else (if list then s else e)) = s := by
  cases rest with
  | closed closed =>
      cases closed with
      | ending ends => simp
      | spaced empty more filled =>
          have here : e < stop := by omega
          cases list <;> simp [filled, empty, here]
  | marked more marked => simp [marked.filled]

theorem gapAfter_spaced {spaced list : Bool} (empty : frame.isEmpty e = true) (more : e + 1 < stop) :
    gapAfter frame stop (if list then e + 1 else e) spaced = true := by
  have here : e < stop := by omega
  cases list <;> simp [gapAfter, empty, here]

theorem gapAfter_filled {spaced : Bool} (before : frame.isEmpty (e - 1) = false)
    (here : frame.isEmpty e = false) : gapAfter frame stop e spaced = spaced := by
  simp [gapAfter, before, here]

/-- **A sequence is read back** if empty lines separate its blocks. -/
theorem readFrom_spaced {fuel room : Nat} {nodes : List Node} (filled : nodes ≠ [])
    (each : ∀ node ∈ nodes, Rereads room node) (starts : ∀ node ∈ nodes, Starts node)
    (apart : nodes.IsChain Apart) (positive : 0 < room) (ready : frame.Ready options room fuel stop)
    (shows : frame.Shows columns n (Text.stack true (nodes.map Node.rows)))
    (inside : n + (Text.stack true (nodes.map Node.rows)).length ≤ stop)
    (closed : frame.Closed stop (n + (Text.stack true (nodes.map Node.rows)).length) s)
    (outside : s < stop → frame.isOutdented s = true) (enough : nodes.length ≤ count) :
    ∃ elements,
      readFrom (readBlocks options fuel) options frame count [] n stop spaced tight =
        { elements, stop := s, definitions := []
          tight := decide (nodes.length = 1) && !spaced } ∧
      List.Forall₂ Spells elements nodes := by
  have depth : frame.depth < maxDepth := by
    have := ready.depth
    omega
  induction nodes generalizing n count spaced tight with
  | nil => exact absurd rfl filled
  | cons node nodes ih =>
      obtain ⟨left, rfl⟩ : ∃ left, count = left + 1 := ⟨count - 1, by
        rw [List.length_cons] at enough
        omega⟩
      obtain ⟨startsNode, startsRest⟩ := List.forall_mem_cons.1 starts
      obtain ⟨eachNode, eachRest⟩ := List.forall_mem_cons.1 each
      have height : 0 < node.rows.length := List.length_pos_iff.2 (Text.lines_ne_nil _)
      -- The last block is closed by what closes the container, any other one by the empty line below it.
      cases nodes with
      | nil =>
          simp only [List.map_cons, List.map_nil, Text.stack] at shows inside closed
          obtain ⟨element, read, spells⟩ := eachNode options fuel frame columns n stop s ready shows inside
            (.closed closed) (fun _ => closed) (parts_of_outside outside)
          obtain ⟨filledRow, level⟩ := startsNode.filled shows
          have done := (Frame.Rest.closed closed).done outside
          refine ⟨[element], ?_, .cons spells .nil⟩
          rw [readFrom_block (by omega) filledRow level depth read, next_of_rest (.closed closed),
            readFrom_done [] done]
          simp
      | cons next nodes =>
          simp only [List.map_cons, Text.stack_cons_cons, if_true, List.length_append,
            List.singleton_append, List.length_cons] at shows inside closed
          have startsNext := startsRest next (List.mem_cons_self ..)
          obtain ⟨apartNext, apartRest⟩ := List.isChain_cons_cons.1 apart
          have showsRest := shows.right.tail
          obtain ⟨below, begins⟩ := Text.exists_stack_cons true next.rows (nodes.map Node.rows)
          have showsNext : frame.Shows columns (n + node.rows.length + 1) next.rows := by
            rw [begins] at showsRest
            exact showsRest.left
          have empty : frame.isEmpty (n + node.rows.length) = true := by
            rw [Frame.isEmpty, shows.right.head.isEmpty_eq]
            rfl
          have heightNext : 0 < (Text.stack true (next.rows :: nodes.map Node.rows)).length := by
            have := List.length_pos_iff.2 (Text.lines_ne_nil next.render)
            rw [begins, List.length_append]
            exact Nat.add_pos_left this _
          have more : n + node.rows.length + 1 < stop := by omega
          have closedHere : frame.Closed stop (n + node.rows.length) (n + node.rows.length + 1) :=
            .spaced empty more (startsNext.filled showsNext).1
          obtain ⟨element, read, spells⟩ := eachNode options fuel frame columns n stop _ ready shows.left
            (by omega) (.closed closedHere) (fun _ => closedHere) (apartNext.parts startsNext showsNext)
          obtain ⟨filledRow, level⟩ := startsNode.filled shows.left
          have same : n + (node.rows.length +
              ((Text.stack true (next.rows :: nodes.map Node.rows)).length + 1)) =
              n + node.rows.length + 1 +
                (Text.stack true (next.rows :: nodes.map Node.rows)).length := by omega
          rw [same] at inside closed
          obtain ⟨elements, readRest, spellsRest⟩ := @ih (n + node.rows.length + 1) left true (!spaced)
            (by simp) eachRest startsRest apartRest showsRest inside closed (by simpa using enough)
          refine ⟨element :: elements, ?_, .cons spells spellsRest⟩
          rw [readFrom_block (by omega) filledRow level depth read, next_of_rest (.closed closedHere),
            gapAfter_spaced empty more, readRest]
          simp

end Block

/-! ## Quotes -/

theorem rows_quote (quote : node.kind = .quote) (filled : node.children ≠ []) :
    node.rows =
      (Text.stack true (node.children.map Node.rows)).map (Text.leadLine Quote.lead) := by
  have text : node.render =
      Text.indentAll Quote.lead (Text.joinWith (Render.gap false) (renderAll node.children)) := by
    rw [Node.render_other (by rw [quote]; rfl)]
    simp only [Render.assemble, quote]
    rfl
  rw [Node.rows, text, Text.lines_indentAll (by decide),
    Text.lines_joinWith_gap false (by rw [renderAll_eq]; simpa using filled), renderAll_eq, List.map_map]
  rfl

/-- A quote takes up all lines with brackets, and ends where the reading of its blocks ends. -/
theorem Quote.read?_eq (inner : Reader) (options : Options) {frame : Frame}
    {columns start stop s : Nat} {texts : List Text} (filled : texts ≠ [])
    (shows : frame.Shows columns start (texts.map (Text.leadLine lead)))
    (inside : start + texts.length ≤ stop) (closed : frame.Closed stop (start + texts.length) s) :
    Block.read inner options frame [] start stop =
      (let body := inner (innerFrame frame start (extentOf frame start texts.length)) [] start
        (start + texts.length)
      { elements := [{ kind := .quote, tag := "blockquote".toList, markup := ['>']
                       children := body.elements, span := some (start, body.stop) }]
        stop := body.stop
        definitions := body.definitions }) := by
  obtain ⟨text, rest, rfl⟩ := List.exists_cons_of_ne_nil filled
  rw [List.map_cons] at shows
  rw [List.length_cons] at inside closed
  have same : start + (rest.length + 1) = start + 1 + rest.length := by omega
  rw [same] at closed
  -- A quote goes on lazily over lines without a mark, but not over an empty one.
  have ends : stop - (start + 1) = rest.length ∨
      rest.length < stop - (start + 1) ∧ frame.isEmpty (start + 1 + rest.length) = true := by
    generalize ending : start + 1 + rest.length = e at closed
    cases closed with
    | ending ends => exact .inl (by omega)
    | spaced empty more filled => exact .inr ⟨by omega, empty⟩
  have extent := extent_eq options frame (unmark (frame.line start)).isEmpty shows.tail ends
  have whole : extentOf frame start (rest.length + 1) =
      { lines := unmark (frame.line start) ::
          (Frame.range (start + 1) (start + 1 + rest.length)).map fun n => unmark (frame.line n) } := by
    rw [extentOf, Frame.range_succ, List.map_cons]
  have size : ((Frame.range (start + 1) (start + 1 + rest.length)).map fun n =>
      unmark (frame.line n)).length = rest.length := by simp [Frame.range]
  obtain ⟨after, led, -⟩ := leadLine_lead text
  have solid := shows.solid (solid_leadLine text)
  rw [led] at solid
  have begins : starts frame start = true := by simp [starts, solid.isCode, solid.body]
  have noFence := @Fence.opening?_eq_none '>' after (by decide) (by decide)
  simp only [Block.read, CodeBlock.read?, Fence.read?, solid.isCode, solid.body, noFence, Quote.read?,
    begins, if_true, extent, List.length_cons, whole, size]
  rfl

/-- Inside, the lines are seen without their marks, and there they show the blocks of the quote. -/
theorem rereads_quote (quote : node.kind = .quote) (filled : node.children ≠ [])
    (each : ∀ child ∈ node.children, Rereads room child) (starts : ∀ child ∈ node.children, Starts child)
    (apart : node.children.IsChain Apart) (positive : 0 < room)
    (neat : ∀ row ∈ Text.stack true (node.children.map Node.rows), row.IsNeat) :
    Rereads (room + 1) node := by
  intro options fuel frame columns start stop s ready shows inside rest closed parts
  have apartRest := closed (by simp [Node.hugs, quote])
  have rows := rows_quote quote filled
  generalize stacked : Text.stack true (node.children.map Node.rows) = texts at rows neat
  have height : node.rows.length = texts.length := by rw [rows, List.length_map]
  rw [height] at inside apartRest ⊢
  rw [rows] at shows
  have nonempty : texts ≠ [] := by
    rintro rfl
    exact Text.lines_ne_nil _ rows
  have bound := ready.bound
  have within := ready.inside
  have insideLines : start + texts.length ≤ frame.lines.length := by omega
  -- The blocks of the quote are read in the frame without brackets, up to the end of the quote.
  obtain ⟨less, rfl, innerReady⟩ : ∃ less, fuel = less + 1 ∧
      (Quote.innerFrame frame start (Quote.extentOf frame start texts.length)).Ready options room less
        (start + texts.length) :=
    ready.deeper Nat.one_pos rfl (Nat.le_trans inside bound)
      (by rw [Quote.length_innerFrame insideLines]; exact within)
  have innerClosed : (Quote.innerFrame frame start (Quote.extentOf frame start texts.length)).Closed
      (start + texts.length) (start + texts.length) (start + texts.length) := by
    refine .ending ?_
    rw [Frame.isEmpty, Quote.line_innerFrame insideLines, if_neg (by omega)]
    generalize start + texts.length = e at apartRest
    cases apartRest with
    | ending ends => exact ends
    | spaced empty more filled => exact .inr empty
  have innerShows := Quote.shows_innerFrame neat shows insideLines
  have count : node.children.length ≤ start + texts.length - start := by
    have := Node.length_le_stack true node.children
    rw [stacked] at this
    omega
  subst stacked
  obtain ⟨elements, read, spells⟩ := @Block.readFrom_spaced options _ 0 start _ _ _ false true _ _ _
    filled each starts apart positive innerReady innerShows (Nat.le_refl _) innerClosed
    (fun more => absurd more (Nat.lt_irrefl _)) count
  refine ⟨{ kind := .quote, tag := "blockquote".toList, markup := ['>'], children := elements
            span := some (start, start + (Text.stack true (node.children.map Node.rows)).length) }, ?_,
    spells_quote quote rfl rfl spells⟩
  rw [Quote.read?_eq _ options nonempty shows inside apartRest]
  simp only [Block.readBlocks, read, quote]
  rfl

end Markdown

end DocComment
