/- Reading back directives. The body of a directive is indented by four columns and ends with the line
that closes its brace, so it is read up to that line as if nothing followed. For this no line of the body
may close the brace before (`PlainDirective.closed`), and some line may not be indented any further, since
the body is read at its least indentation (`PlainDirective.level`). -/
import DocComment.Proofs.Marks
import DocComment.Proofs.Rereading

namespace DocComment

set_option autoImplicit false

open Markdown

def Node.directiveLine (node : Node) : Text :=
  Render.directiveHead node ++ if node.children.isEmpty then [] else [' ', '{']

/-- The lines of the body of a directive, without its indentation. -/
def Node.bodyRows (node : Node) : List Text := Text.stack true (node.children.map Node.rows)

namespace Markdown

/-! ## The lines of a directive -/

/-- A directive by its first line and the lines of its body. -/
@[mk_iff]
structure PlainDirective (node : Node) : Prop where
  line : '\n' ∉ Render.directiveHead node
  head : Directive.ofLine? node.directiveLine =
    some { name := node.name, arguments := node.arguments, opens := !node.children.isEmpty }
  closed : node.children ≠ [] →
    Directive.closing? 0 (node.bodyRows.map (·.dropWhile isIndent) ++ [['}']]) = some node.bodyRows.length
  level : node.children ≠ [] → ∃ child ∈ node.children, child.kind ≠ .codeBlock

instance (node : Node) : Decidable (PlainDirective node) := decidable_of_iff' _ (plainDirective_iff node)

variable {node : Node}

/-- The body is indented as a whole, so its lines are those of the blocks behind four spaces each. -/
theorem rows_directive (directive : node.kind = .directive) (line : '\n' ∉ Render.directiveHead node) :
    node.rows = node.directiveLine ::
      if node.children.isEmpty then []
      else node.bodyRows.map (Text.leadLine CodeBlock.lead) ++ [['}']] := by
  rw [Node.rows, Node.render_other (by rw [directive]; rfl), Node.directiveLine]
  simp only [Render.assemble, directive]
  cases none : node.children.isEmpty with
  | true => simp [Text.lines_eq_singleton line]
  | false =>
      have filled : renderAll node.children ≠ [] := by simpa [renderAll_eq] using none
      have free : '\n' ∉ Render.directiveHead node ++ [' ', '{'] := by simp [line]
      have blocks : Text.lines (Text.joinWith ['\n', '\n'] (renderAll node.children)) = node.bodyRows := by
        rw [Node.bodyRows]
        exact (Text.lines_joinWith_gap false filled).trans (by rw [renderAll_eq, List.map_map]; rfl)
      have split : ∀ body : Text, Render.directiveHead node ++ [' ', '{', '\n'] ++ body ++ ['\n', '}'] =
          (Render.directiveHead node ++ [' ', '{']) ++ '\n' :: (body ++ '\n' :: ['}']) := by simp
      have body := Text.lines_indentAll (show '\n' ∉ CodeBlock.lead by decide)
        (Text.joinWith ['\n', '\n'] (renderAll node.children))
      rw [blocks] at body
      simp only [Bool.false_eq_true, if_false]
      rw [split, Text.lines_append_newline, Text.lines_append_newline, Text.lines_eq_singleton free]
      exact congrArg (fun rows => _ :: (rows ++ [['}']])) body

/-! ## The body -/

/-- What follows the closing brace does not matter. -/
theorem Directive.closing?_append {depth n : Nat} {lines : List Text} (more : List Text)
    (closed : closing? depth lines = some n) : closing? depth (lines ++ more) = some n := by
  induction lines generalizing depth n with
  | nil => cases closed
  | cons line lines ih =>
      rw [List.cons_append]
      unfold closing? at closed ⊢
      by_cases closes : closesBody line = true
      · rw [if_pos closes] at closed ⊢
        cases depth with
        | zero => exact closed
        | succ depth =>
            obtain ⟨m, found, rfl⟩ := Option.map_eq_some_iff.1 closed
            simp [ih found]
      · rw [if_neg closes] at closed ⊢
        by_cases opens : opensBody line = true
        · rw [if_pos opens] at closed ⊢
          obtain ⟨m, found, rfl⟩ := Option.map_eq_some_iff.1 closed
          simp [ih found]
        · rw [if_neg opens] at closed ⊢
          obtain ⟨m, found, rfl⟩ := Option.map_eq_some_iff.1 closed
          simp [ih found]

section

variable {options : Options} {frame : Frame} {columns start stop : Nat} {texts : List Text}

theorem Frame.mem_range {first stop n : Nat} : n ∈ range first stop ↔ first ≤ n ∧ n < stop := by
  simp only [range, List.mem_map, List.mem_range]
  constructor
  · rintro ⟨i, below, rfl⟩
    omega
  · rintro ⟨above, below⟩
    exact ⟨n - first, by omega, by omega⟩

theorem Frame.Displays.bodies_eq (displays : frame.Displays columns start texts) :
    (range start (start + texts.length)).map frame.body = texts.map (·.dropWhile isIndent) := by
  induction texts generalizing start with
  | nil => simp [range_self]
  | cons text texts ih =>
      rw [List.length_cons, range_succ, List.map_cons, ih displays.tail, List.map_cons, Frame.body,
        displays.head.body]

/-- The least indentation of lines is that of the columns before them, if one of them adds none. -/
theorem Command.leastIndent?_eq (displays : frame.Displays columns start texts)
    (level : ∃ text ∈ texts, text.IsSolid) :
    leastIndent? ((Frame.range start (start + texts.length)).map frame.line) = some (columns : Int) := by
  rw [leastIndent?, List.min?_eq_some_iff]
  constructor
  · obtain ⟨text, member, solid⟩ := level
    obtain ⟨i, bound, rfl⟩ := List.getElem_of_mem member
    have shown := displays.shown i _ (List.getElem?_eq_getElem bound)
    refine List.mem_map.2 ⟨frame.line (start + i), ?_, ?_⟩
    · rw [List.mem_filter, shown.isEmpty_eq, solid.dropWhile]
      refine ⟨List.mem_map.2 ⟨start + i, Frame.mem_range.2 ⟨by omega, by omega⟩, rfl⟩, ?_⟩
      simpa using solid.ne_nil
    · rw [shown.indent_eq solid.ne_nil, leading_of_solid solid, Nat.add_zero]
  · intro indent member
    obtain ⟨line, found, rfl⟩ := List.mem_map.1 member
    obtain ⟨inside, filled⟩ := List.mem_filter.1 found
    obtain ⟨n, bounds, rfl⟩ := List.mem_map.1 inside
    obtain ⟨above, below⟩ := Frame.mem_range.1 bounds
    have shown := displays.shown (n - start) _
      (List.getElem?_eq_getElem (show n - start < texts.length by omega))
    rw [show start + (n - start) = n by omega] at shown
    have some : texts[n - start] ≠ [] := by
      intro empty
      rw [empty] at shown
      simp [shown.isEmpty_eq] at filled
    rw [shown.indent_eq some]
    omega

/-- Inside a directive the lines show what followed the indentation of its body. -/
theorem Command.shows_bodyFrame (shows : frame.Shows columns start (texts.map (Text.leadLine CodeBlock.lead)))
    (level : ∃ text ∈ texts, text.IsSolid) :
    (bodyFrame frame start (start + texts.length)).Shows (columns + 4) start texts := by
  have deeper : frame.Displays (columns + 4) start texts := shows.toDisplays.deeper
  refine ⟨⟨deeper.shown, deeper.ended⟩, ?_⟩
  have indent := shows.indent
  rw [bodyFrame, leastIndent?_eq deeper level]
  show max frame.indent ((columns + 4 : Nat) : Int) = _
  omega

/-- Lines that are indented like code underline nothing. -/
theorem Underline.find?_lead {count : Nat}
    (shows : frame.Shows columns start (texts.map (Text.leadLine CodeBlock.lead)))
    (enough : texts.length ≤ count)
    (rest : find? options frame (count - texts.length) (start + texts.length) = none) :
    find? options frame count start = none := by
  induction texts generalizing start count with
  | nil => exact rest
  | cons text texts ih =>
      rw [List.length_cons] at enough rest
      rw [List.map_cons] at shows
      obtain ⟨left, rfl⟩ : ∃ left, count = left + 1 := ⟨count - 1, by omega⟩
      rw [show left + 1 - (texts.length + 1) = left - texts.length by omega,
        show start + (texts.length + 1) = start + 1 + texts.length by omega] at rest
      have step := @ih (start + 1) left shows.tail (by omega) rest
      by_cases blank : text.dropWhile isIndent = []
      · rw [find?, if_pos (CodeBlock.isEmpty_of_lead shows.head blank)]
      · obtain ⟨filled, deep⟩ := CodeBlock.isCode_of_lead shows.indent shows.head blank
        rw [find?, if_neg (by simp [filled]), if_pos deep, step]

/-! ## Reading -/

/-- A line that begins with an at sign begins a directive or a paragraph. -/
theorem Block.read_directive {inner : Reader} {tail : Text} {reading : Reading}
    (commands : options.commands = true) (solid : frame.Solid start ('@' :: tail))
    (underline : Underline.find? options frame (stop - (start + 1)) (start + 1) = none)
    (read : Command.readDirective? inner frame [] start stop = some reading) :
    Block.read inner options frame [] start stop = reading := by
  have mark := @ListMark.read?_eq_none '@' tail (by decide) (by decide)
  have rule := @Rule.marks?_eq_none '@' tail (by decide) (by decide) (by decide)
  have fence := @Fence.opening?_eq_none '@' tail (by decide) (by decide)
  have heading : Heading.parts? ('@' :: tail) = none := by simp [Heading.parts?]
  have html : Html.opening? ('@' :: tail) = none := by simp [Html.opening?]
  have described := @Described.ofLine?_eq_none '@' tail (by decide)
  have quote : Quote.starts frame start = false := by simp [Quote.starts, solid.body]
  have items : Items.read? inner options frame [] start stop = none := Items.read?_eq_none solid mark
  have definition : Definition.read? options frame [] start = none := by
    simp [Definition.read?, solid.body]
  simp only [Block.read, CodeBlock.read?, Fence.read?, Quote.read?, Rule.read?, HtmlBlock.read?,
    Heading.read?, Underline.read?, Command.read?, Command.readDescription?, commands, solid.isCode,
    solid.body, quote, items, definition, rule, fence, heading, html, described, underline, read]
  rfl

/-- Nothing is underlined where a block is closed. -/
theorem Underline.find?_closed {e s : Nat} (closed : frame.Closed stop e s) :
    find? options frame (stop - e) e = none := by
  cases closed with
  | ending ends => rw [Nat.sub_self, find?]
  | spaced empty more filled =>
      obtain ⟨left, count⟩ : ∃ left, stop - e = left + 1 := ⟨stop - e - 1, by omega⟩
      rw [count, find?, if_pos empty]

/-- The body of a directive and the line that closes it underline nothing. -/
theorem Underline.find?_body {s : Nat}
    (shows : frame.Shows columns start (texts.map (Text.leadLine CodeBlock.lead) ++ [['}']]))
    (inside : start + texts.length + 1 ≤ stop)
    (closed : frame.Closed stop (start + texts.length + 1) s) :
    find? options frame (stop - start) start = none := by
  refine find?_lead shows.left (by omega) ?_
  have brace := shows.right
  rw [List.length_map] at brace
  have solid := brace.solid (Text.isSolid_cons rfl [])
  have continues : Continues ['}'] := by decide
  have quiet := @Continues.interrupts_eq options frame _ _ continues solid
  have level : ¬ (frame.line (start + texts.length)).indent < 0 := by
    rw [solid.level, shows.indent]
    omega
  obtain ⟨left, count⟩ : ∃ left, stop - start - texts.length = left + 1 :=
    ⟨stop - (start + texts.length + 1), by omega⟩
  have rest : find? options frame left (start + texts.length + 1) = none := by
    rw [show left = stop - (start + texts.length + 1) by omega]
    exact find?_closed closed
  rw [count]
  simp [find?, solid.filled, solid.isCode, solid.isOutdented, solid.body, continues.underline, level,
    quiet, rest]

/-- The brace of a directive is closed after the lines of its body. -/
theorem Directive.closing?_body
    (shows : frame.Shows columns start (texts.map (Text.leadLine CodeBlock.lead) ++ [['}']]))
    (inside : start + texts.length + 1 ≤ stop)
    (closed : closing? 0 (texts.map (·.dropWhile isIndent) ++ [['}']]) = some texts.length) :
    closing? 0 ((Frame.range start stop).map frame.body) = some texts.length := by
  have deeper : frame.Displays (columns + 4) start texts := shows.left.toDisplays.deeper
  have brace := shows.right.toDisplays.bodies_eq
  rw [List.length_map] at brace
  obtain ⟨more, rfl⟩ : ∃ more, stop = start + (texts.length + (1 + more)) :=
    ⟨stop - (start + texts.length + 1), by omega⟩
  rw [Frame.range_append, List.map_append, deeper.bodies_eq, Frame.range_append, List.map_append,
    ← List.append_assoc]
  refine closing?_append _ ?_
  rw [← closed]
  congr 2

end

variable {room : Nat}

theorem PlainDirective.exists_solid (plain : PlainDirective node) (filled : node.children ≠ [])
    (starts : ∀ child ∈ node.children, Starts child) : ∃ text ∈ node.bodyRows, text.IsSolid := by
  obtain ⟨child, member, noCode⟩ := plain.level filled
  obtain ⟨row, below, rows, -, solid, -⟩ := (starts child member).row
  refine ⟨row, Text.mem_stack_of_mem (List.mem_map_of_mem member) ?_, solid noCode⟩
  rw [rows]
  exact List.mem_cons_self ..

/-- **A directive is read back** if the blocks of its body are. -/
theorem rereads_directive (directive : node.kind = .directive) (plain : PlainDirective node)
    (each : ∀ child ∈ node.children, Rereads room child) (starts : ∀ child ∈ node.children, Starts child)
    (apart : node.children.IsChain Apart) (positive : node.children ≠ [] → 0 < room) :
    Rereads (room + 1) node := by
  intro options fuel frame columns start stop s ready shows inside rest closed parts
  have closedRest := closed (by simp [Node.hugs, directive])
  have rows := rows_directive directive plain.line
  obtain ⟨tail, begins⟩ : ∃ tail, node.directiveLine = '@' :: tail := ⟨_, rfl⟩
  have solid : frame.Solid start ('@' :: tail) := by
    rw [rows, begins] at shows
    exact shows.solid (Text.isSolid_cons rfl tail)
  have head := plain.head
  rw [begins] at head
  by_cases bare : node.children = []
  · have none : node.children.isEmpty = true := by rw [bare]; rfl
    rw [none, if_pos rfl] at rows
    rw [rows, List.length_singleton] at closedRest ⊢
    have spells := @spells_directive node
      { name := node.name, arguments := node.arguments, opens := false }
      { kind := .directive, markup := ['@'], traits := Directive.traits ⟨node.name, node.arguments, false⟩
        span := some (start, start + 1) } directive rfl rfl rfl rfl rfl (by rw [bare]; exact .nil)
    refine ⟨_, Block.read_directive ready.commands solid (Underline.find?_closed closedRest) ?_, spells⟩
    simp only [Command.readDirective?, solid.isCode, solid.body, head, none, directive]
    rfl
  · have filled : node.children.isEmpty = false := by simpa using bare
    rw [filled, if_neg (by simp)] at rows
    have height : start + node.rows.length = start + 1 + node.bodyRows.length + 1 := by
      rw [rows, List.length_cons, List.length_append, List.length_map, List.length_singleton]
      omega
    rw [height] at inside closedRest ⊢
    rw [rows] at shows
    have showsBody := shows.tail
    have within := ready.inside
    have bound := ready.bound
    have insideLines : start + 1 + node.bodyRows.length ≤ frame.lines.length := by omega
    -- The body ends before its brace, whatever follows.
    obtain ⟨less, rfl, innerReady⟩ : ∃ less, fuel = less + 1 ∧
        (Command.bodyFrame frame (start + 1) (start + 1 + node.bodyRows.length)).Ready options room less
          (start + 1 + node.bodyRows.length) :=
      ready.deeper Nat.one_pos rfl (Nat.le_refl _) insideLines
    have count : node.children.length ≤ start + 1 + node.bodyRows.length - (start + 1) := by
      have := Node.length_le_stack true node.children
      rw [← Node.bodyRows] at this
      omega
    obtain ⟨elements, read, spelled⟩ := @Block.readFrom_spaced options _ _ _ _ _ _ false true _ _ _
      bare each starts apart (positive bare) innerReady
      (Command.shows_bodyFrame showsBody.left (plain.exists_solid bare starts))
      (Nat.le_refl _) (.ending (.inl (Nat.le_refl _))) (fun more => absurd more (Nat.lt_irrefl _)) count
    have spells := @spells_directive node
      { name := node.name, arguments := node.arguments, opens := true }
      { kind := .directive, markup := ['@'], traits := Directive.traits ⟨node.name, node.arguments, true⟩
        children := elements, span := some (start, start + 1 + node.bodyRows.length + 1) }
      directive rfl rfl rfl rfl rfl spelled
    have closing := Directive.closing?_body showsBody inside (plain.closed bare)
    refine ⟨_, Block.read_directive ready.commands solid
      (Underline.find?_body showsBody inside closedRest) ?_, spells⟩
    have before : start + 1 + node.bodyRows.length < stop := inside
    simp only [Command.readDirective?, solid.isCode, solid.body, head, filled, closing, before, directive,
      Block.readBlocks, read]
    rfl

end Markdown

end DocComment
