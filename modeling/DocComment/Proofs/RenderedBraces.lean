/- The braces in the text of a directive. Rendering writes a line with a brace before the body of a directive
and one after it, so these should match each other. They do not always: if a directive begins an item of a
list, its first line stands behind the mark of the item and is no opening line any more, while its last line
stays a closing line. Then the closing lines are too many, and the search that begins at an outer directive
stops at the first of them (`closingLine?_itemBody`). Such items are the only exception
(`closingLine?_rendered`). -/
import DocComment.Proofs.Braces
import DocComment.Proofs.ListReading

namespace DocComment

set_option autoImplicit false

/-! ## Trees of directives and lists -/

/-- Whether blocks begin with a directive that has a body. -/
def beginsWithBody : List Node → Bool
  | [] => false
  | node :: _ => node.kind == .directive && !node.children.isEmpty

mutual

/-- How many items inside a node begin with a directive that has a body. -/
def Node.hiddenHeads : Node → Nat
  | ⟨kind, children, _, _, _, _, _, _⟩ =>
    if kind.isList then hiddenInItems children
    else if kind = .directive then hiddenInBlocks children
    else 0

def hiddenInBlocks : List Node → Nat
  | [] => 0
  | node :: nodes => node.hiddenHeads + hiddenInBlocks nodes

def hiddenInItems : List Node → Nat
  | [] => 0
  | ⟨_, children, _, _, _, _, _, _⟩ :: items =>
    (beginsWithBody children).toNat + hiddenInBlocks children + hiddenInItems items

end

namespace Markdown

/-- A line that neither opens nor closes a body, whatever its indentation. -/
@[mk_iff]
structure IsNeutral (row : Text) : Prop where
  opens : Directive.opensBody (row.dropWhile isIndent) = false
  closes : Directive.closesBody (row.dropWhile isIndent) = false

instance : DecidablePred IsNeutral := fun row => decidable_of_iff' _ (isNeutral_iff row)

end Markdown

section

open Markdown

/-- A node built from directives, lists and paragraphs, where no line of a paragraph has to do with
braces, and every number in an ordered list stands on one line with the sign behind it. -/
inductive Node.IsBraced : Node → Prop
  | paragraph {node : Node} (kind : node.kind = .paragraph) (quiet : ∀ row ∈ node.rows, IsNeutral row) :
      Node.IsBraced node
  | directive {node : Node} (kind : node.kind = .directive) (named : Directive.isName node.name = true)
      (free : ∀ arguments ∈ node.arguments, '\n' ∉ arguments)
      (children : ∀ child ∈ node.children, Node.IsBraced child) : Node.IsBraced node
  | list {node : Node} (kind : node.kind.isList = true)
      (marks : node.kind = .orderedList → ∀ item ∈ node.children, '\n' ∉ item.markup)
      (children : ∀ item ∈ node.children, ∀ child ∈ item.children, Node.IsBraced child) :
      Node.IsBraced node

end

theorem Node.hiddenHeads_list {node : Node} (list : node.kind.isList = true) :
    node.hiddenHeads = hiddenInItems node.children := by
  obtain ⟨kind, children, content, markup, info, attrs, traits, range⟩ := node
  rw [Node.hiddenHeads, if_pos list]

theorem Node.hiddenHeads_directive {node : Node} (directive : node.kind = .directive) :
    node.hiddenHeads = hiddenInBlocks node.children := by
  obtain ⟨kind, children, content, markup, info, attrs, traits, range⟩ := node
  obtain rfl := directive
  rfl

theorem Node.hiddenHeads_paragraph {node : Node} (paragraph : node.kind = .paragraph) :
    node.hiddenHeads = 0 := by
  obtain ⟨kind, children, content, markup, info, attrs, traits, range⟩ := node
  obtain rfl := paragraph
  rfl

namespace Markdown

open Directive (openers closers opensBody closesBody openers_cons closers_cons)

/-! ## Lines as the search sees them -/

def seen (rows : List Text) : List Text := rows.map (·.dropWhile isIndent)

theorem seen_append (above below : List Text) : seen (above ++ below) = seen above ++ seen below :=
  List.map_append

theorem dropWhile_leadLine (width : Nat) (row : Text) :
    (Text.leadLine (List.replicate width ' ') row).dropWhile isIndent = row.dropWhile isIndent := by
  cases row with
  | nil => rw [Text.leadLine_spaces_nil]
  | cons c row =>
      rw [Text.leadLine_of_ne (List.cons_ne_nil _ _), List.dropWhile_append_of_pos]
      intro space member
      rw [List.eq_of_mem_replicate member]
      rfl

/-- Spaces before the lines are not seen. -/
theorem seen_leadLine (width : Nat) (rows : List Text) :
    seen (rows.map (Text.leadLine (List.replicate width ' '))) = seen rows := by
  rw [seen, List.map_map]
  exact List.map_congr_left fun row _ => dropWhile_leadLine width row

/-- A character that keeps a line from having to do with braces, if the line begins with it. -/
def IsGuard (c : Char) : Prop := isBlank c = false ∧ c ≠ '@' ∧ c ≠ '}'

instance : DecidablePred IsGuard := fun _ => inferInstanceAs (Decidable (_ ∧ _))

theorem IsGuard.isNeutral {c : Char} (guard : IsGuard c) (rest : Text) : IsNeutral (c :: rest) := by
  obtain ⟨solid, plain, other⟩ := guard
  have shown : (c :: rest).dropWhile isIndent = c :: rest :=
    List.dropWhile_cons_of_neg (by simp [Text.isIndent_of_not_blank solid])
  constructor
  · rw [shown, opensBody, Directive.ofLine?_eq_none plain]
    rfl
  · rw [shown]
    exact Directive.closesBody_eq_false solid other rest

theorem isGuard_of_digit {c : Char} (digit : isAsciiDigit c = true) : IsGuard c :=
  ⟨isBlank_eq_false_of_digit digit, ListMark.ne_of_digit digit (by decide),
    ListMark.ne_of_digit digit (by decide)⟩

theorem isAsciiDigit_of_mem_ofNat {n : Nat} {c : Char} (member : c ∈ Text.ofNat n) :
    isAsciiDigit c = true :=
  isAsciiDigit_of_isDigit (Nat.isDigit_of_mem_toDigits (by decide) (by decide) member)

/-- A marker begins with a digit or a sign, which neither opens nor closes a body. -/
theorem exists_guard_marker (kind : Kind) (number : Int) (markup : Text) :
    ∃ c rest, Render.marker kind number markup = c :: rest ∧ IsGuard c := by
  have hyphen : IsGuard '-' := by decide
  unfold Render.marker
  split
  · cases number with
    | ofNat n =>
        obtain ⟨c, rest, digits⟩ : ∃ c rest, Text.ofNat n = c :: rest :=
          List.exists_cons_of_ne_nil Nat.toDigits_ne_nil
        have digit : isAsciiDigit c = true :=
          isAsciiDigit_of_mem_ofNat (n := n) (by rw [digits]; exact List.mem_cons_self)
        rw [Text.ofInt, digits]
        exact ⟨c, _, rfl, isGuard_of_digit digit⟩
    | negSucc n => exact ⟨'-', _, rfl, hyphen⟩
  · exact ⟨'-', _, rfl, hyphen⟩

/-- A newline could come into the mark of an item only with the sign that an ordered list writes there. -/
theorem newline_not_mem_marker (kind : Kind) (number : Int) {markup : Text}
    (free : kind = .orderedList → '\n' ∉ markup) : '\n' ∉ Render.marker kind number markup := by
  have digits : ∀ n, '\n' ∉ Text.ofNat n := fun n member =>
    absurd (isAsciiDigit_of_mem_ofNat member) (by decide)
  have plain : '\n' ∉ Text.ofInt number := by
    cases number with
    | ofNat n => exact digits n
    | negSucc n => simp [Text.ofInt, digits (n + 1)]
  unfold Render.marker
  split
  · split
    · simp [plain]
    · simp [plain, free rfl]
  · decide

/-- The mark of an item keeps the line after it from having to do with braces. -/
theorem isNeutral_marker (kind : Kind) (number : Int) (markup row : Text) :
    IsNeutral (Text.leadLine (Render.marker kind number markup) row) := by
  obtain ⟨c, rest, marker, guard⟩ := exists_guard_marker kind number markup
  rw [Text.leadLine, marker]
  split
  · have kept : Text.trimRight [c] = [c] := by simp [Text.trimRight, Text.dropRightWhile, guard.1]
    have trimmed : Text.trimRight (c :: rest) = c :: Text.trimRight rest :=
      Text.trimRight_append_of_solid kept rest
    rw [trimmed]
    exact guard.isNeutral _
  · exact guard.isNeutral _

/-! ## Counting in lines -/

/-- Lines that close as many bodies as they open and some more; where there are no more, they nowhere close
one that they have not opened. `heads` says whether the first of them opens a body. -/
structure Settles (rows : List Text) (hidden : Nat) (heads : Bool) : Prop where
  count : closers (seen rows) = openers (seen rows) + hidden
  held : hidden = 0 → ∀ k, closers ((seen rows).take k) ≤ openers ((seen rows).take k)
  head : ∃ row rest, rows = row :: rest ∧ opensBody (row.dropWhile isIndent) = heads ∧
    closesBody (row.dropWhile isIndent) = false

/-- Lines that have nothing to do with braces. -/
theorem settles_neutral {rows : List Text} (some : rows ≠ []) (each : ∀ row ∈ rows, IsNeutral row) :
    Settles rows 0 false := by
  have none : ∀ row ∈ seen rows, opensBody row = false ∧ closesBody row = false := by
    intro row member
    obtain ⟨line, listed, rfl⟩ := List.mem_map.1 member
    exact ⟨(each line listed).opens, (each line listed).closes⟩
  have unclosed : ∀ k, closers ((seen rows).take k) = 0 := fun k =>
    List.countP_eq_zero.2 fun row member => by simp [none row (List.mem_of_mem_take member)]
  have unopened : openers (seen rows) = 0 :=
    List.countP_eq_zero.2 fun row member => by simp [none row member]
  obtain ⟨row, rest, rfl⟩ := List.exists_cons_of_ne_nil some
  have first := each row List.mem_cons_self
  refine ⟨?_, fun _ k => by rw [unclosed k]; exact Nat.zero_le _, row, rest, rfl, first.opens, first.closes⟩
  have all := unclosed (seen (row :: rest)).length
  rw [List.take_length] at all
  rw [all, unopened]

theorem settles_empty : Settles [[]] 0 false :=
  settles_neutral (List.cons_ne_nil _ _) fun row member => by
    rw [List.mem_singleton.1 member]
    exact ⟨by decide, by decide⟩

/-- Lines below others. -/
theorem Settles.append {above below : List Text} {m n : Nat} {x y : Bool} (first : Settles above m x)
    (second : Settles below n y) : Settles (above ++ below) (m + n) x := by
  obtain ⟨row, rest, rfl, opens, closes⟩ := first.head
  refine ⟨?_, fun none k => ?_, row, rest ++ below, rfl, opens, closes⟩
  · rw [seen_append, Directive.openers_append, Directive.closers_append, first.count, second.count]
    omega
  · have left := first.held (by omega) k
    have right := second.held (by omega) (k - (seen (row :: rest)).length)
    rw [seen_append, List.take_append, Directive.openers_append, Directive.closers_append]
    omega

/-- One more group of lines on top of a stack. -/
theorem Settles.stack_cons {loose : Bool} {group next : List Text} {groups : List (List Text)} {m n : Nat}
    {x y : Bool} (first : Settles group m x) (others : Settles (Text.stack loose (next :: groups)) n y) :
    Settles (Text.stack loose (group :: next :: groups)) (m + n) x := by
  rw [Text.stack_cons_cons]
  cases loose with
  | false => exact first.append others
  | true =>
      have below := settles_empty.append others
      rw [Nat.zero_add] at below
      exact first.append below

/-- Behind the mark of an item the first line opens no body any more. -/
theorem Settles.marked {rows : List Text} {hidden : Nat} {heads : Bool} (settles : Settles rows hidden heads)
    {mark : Text} (neutral : ∀ row, IsNeutral (Text.leadLine mark row)) (width : Nat) :
    Settles (Text.leadFrom mark (List.replicate width ' ') rows) (heads.toNat + hidden) false := by
  obtain ⟨row, rest, rfl, opens, closes⟩ := settles.head
  obtain ⟨shut, still⟩ := neutral row
  have rows : seen (Text.leadFrom mark (List.replicate width ' ') (row :: rest)) =
      (Text.leadLine mark row).dropWhile isIndent :: seen rest := by
    rw [Text.leadFrom, seen, List.map_cons, ← seen, seen_leadLine]
  refine ⟨?_, fun none k => ?_, _, _, rfl, shut, still⟩
  · have count := settles.count
    rw [seen, List.map_cons, ← seen, openers_cons, closers_cons, opens, closes] at count
    rw [rows, openers_cons, closers_cons, shut, still]
    simp only [Bool.toNat_false, Nat.zero_add] at count ⊢
    omega
  · obtain ⟨unopened, nothing⟩ := Nat.add_eq_zero_iff.1 none
    rw [rows]
    cases k with
    | zero => exact Nat.zero_le _
    | succ k =>
        have held := settles.held nothing (k + 1)
        rw [seen, List.map_cons, ← seen, List.take_succ_cons, openers_cons, closers_cons, opens, closes,
          unopened] at held
        rw [List.take_succ_cons, openers_cons, closers_cons, shut, still]
        exact held

/-- Between the first line of a directive and its closing brace. -/
theorem Settles.wrapped {rows : List Text} {hidden : Nat} {heads : Bool} (settles : Settles rows hidden heads)
    (header : Text) (opens : opensBody (header.dropWhile isIndent) = true) (width : Nat) :
    Settles (header :: (rows.map (Text.leadLine (List.replicate width ' ')) ++ [['}']])) hidden true := by
  have shut := Directive.closesBody_of_opensBody opens
  have body : seen (header :: (rows.map (Text.leadLine (List.replicate width ' ')) ++ [['}']])) =
      header.dropWhile isIndent :: (seen rows ++ [['}']]) := by
    rw [seen, List.map_cons, ← seen, seen_append, seen_leadLine]
    rfl
  have brace : openers [['}']] = 0 ∧ closers [['}']] = 1 := by decide
  refine ⟨?_, fun none k => ?_, _, _, rfl, opens, shut⟩
  · have count := settles.count
    rw [body, openers_cons, closers_cons, opens, shut, Directive.openers_append, Directive.closers_append,
      brace.1, brace.2]
    simp only [Bool.toNat_false, Bool.toNat_true]
    omega
  · rw [body]
    cases k with
    | zero => exact Nat.zero_le _
    | succ k =>
        have held := settles.held none k
        have last : closers (List.take (k - (seen rows).length) [['}']]) ≤ 1 := by
          rw [← brace.2]
          exact (List.take_sublist _ _).countP_le
        rw [List.take_succ_cons, openers_cons, closers_cons, opens, shut, List.take_append,
          Directive.openers_append, Directive.closers_append]
        simp only [Bool.toNat_false, Bool.toNat_true]
        omega

/-- **Where the brace after some lines is found.** It is found before, at one of the lines, if these close
too many bodies, and only then. -/
theorem Settles.exists_closing {rows : List Text} {hidden : Nat} {heads : Bool}
    (settles : Settles rows hidden heads) :
    ∃ n, Directive.closing? 0 (seen rows ++ [['}']]) = some n ∧ (n = rows.length ↔ hidden = 0) := by
  have count := settles.count
  have size : (seen rows).length = rows.length := List.length_map _
  obtain ⟨n, inside, closed⟩ := @Directive.exists_closing? 0 (seen rows ++ [['}']]) (rows.length + 1) (by
    rw [List.take_of_length_le (by simp [size]), Directive.openers_append, Directive.closers_append,
      show openers [['}']] = 0 by decide, show closers [['}']] = 1 by decide]
    omega)
  have first := Directive.closing?_eq_some_iff.1 closed
  refine ⟨n, closed, ?_⟩
  constructor
  · intro last
    have before := first.before rows.length (Nat.le_of_eq last.symm)
    rw [← size, List.take_left] at before
    omega
  · intro none
    refine Nat.le_antisymm (Nat.le_of_lt_succ inside) (Nat.le_of_not_lt fun early => ?_)
    have here := first.here
    rw [List.take_append_of_le_length (by omega)] at here
    have held := settles.held none (n + 1)
    omega

/-! ## Counting in nodes -/

/-- What is to be shown of the lines of a node. -/
def SettlesNode (node : Node) : Prop := Settles node.rows node.hiddenHeads (beginsWithBody [node])

/-- Blocks settle one after the other; only the first can begin with a body. -/
theorem settles_blocks {loose : Bool} {nodes : List Node} (some : nodes ≠ [])
    (each : ∀ node ∈ nodes, SettlesNode node) :
    Settles (Text.stack loose (nodes.map Node.rows)) (hiddenInBlocks nodes) (beginsWithBody nodes) := by
  induction nodes with
  | nil => exact absurd rfl some
  | cons node nodes ih =>
      obtain ⟨first, others⟩ := List.forall_mem_cons.1 each
      cases nodes with
      | nil => exact first
      | cons next nodes =>
          exact Settles.stack_cons first (ih (List.cons_ne_nil _ _) others)

/-- The lines of an item, without its mark. -/
theorem settles_body (tight : Bool) {nodes : List Node} (each : ∀ node ∈ nodes, SettlesNode node) :
    Settles (Text.lines (Text.joinWith (Render.gap tight) (renderAll nodes))) (hiddenInBlocks nodes)
      (beginsWithBody nodes) := by
  by_cases none : nodes = []
  · rw [none]
    exact settles_empty
  · have blocks : renderAll nodes ≠ [] := by simpa [renderAll_eq] using none
    rw [Text.lines_joinWith_gap tight blocks, renderAll_eq, List.map_map]
    exact settles_blocks none each

theorem hiddenInItems_cons (item : Node) (items : List Node) :
    hiddenInItems (item :: items) =
      (beginsWithBody item.children).toNat + hiddenInBlocks item.children + hiddenInItems items := by
  obtain ⟨kind, children, content, markup, info, attrs, traits, range⟩ := item
  rw [hiddenInItems]

theorem settles_item (kind : Kind) (tight : Bool) (number : Int) {item : Node}
    (mark : kind = .orderedList → '\n' ∉ item.markup) (each : ∀ child ∈ item.children, SettlesNode child) :
    Settles (Text.lines (Render.item (Render.marker kind number item.markup)
        (Text.joinWith (Render.gap tight) (renderAll item.children))))
      ((beginsWithBody item.children).toNat + hiddenInBlocks item.children) false := by
  rw [Render.item, Text.lines_indentFrom (newline_not_mem_marker kind number mark) (by simp)]
  exact (settles_body tight each).marked (isNeutral_marker kind number item.markup) _

/-- By induction on the items: they hide as many heads as each of them does, one after the other. -/
theorem settles_items (kind : Kind) (tight : Bool) (number : Int) {items : List Node} (some : items ≠ [])
    (marks : kind = .orderedList → ∀ item ∈ items, '\n' ∉ item.markup)
    (each : ∀ item ∈ items, ∀ child ∈ item.children, SettlesNode child) :
    Settles (Text.stack (!tight) ((Render.items kind tight number (renderItems items)).map Text.lines))
      (hiddenInItems items) false := by
  induction items generalizing number with
  | nil => exact absurd rfl some
  | cons item items ih =>
      have mark : kind = .orderedList → '\n' ∉ item.markup := fun ordered =>
        marks ordered item List.mem_cons_self
      have others : kind = .orderedList → ∀ other ∈ items, '\n' ∉ other.markup := fun ordered other listed =>
        marks ordered other (List.mem_cons_of_mem item listed)
      obtain ⟨inside, below⟩ := List.forall_mem_cons.1 each
      have first := settles_item kind tight number mark inside
      rw [hiddenInItems_cons, renderItems_eq, List.map_cons, Render.items, List.map_cons, ← renderItems_eq]
      cases items with
      | nil => exact first
      | cons next items =>
          have rest := ih (number + 1) (List.cons_ne_nil _ _) others below
          rw [renderItems_eq, List.map_cons, Render.items, List.map_cons] at rest ⊢
          exact first.stack_cons rest

/-- A directive is written with a brace exactly if it has children. -/
theorem opensBody_directiveLine {node : Node} (named : Directive.isName node.name = true) :
    opensBody node.directiveLine = !node.children.isEmpty := by
  have read := Directive.ofLine?_directiveLine named
  cases opens : opensBody node.directiveLine with
  | true =>
      obtain ⟨d, found, body⟩ := Directive.opensBody_iff.1 opens
      rw [read] at found
      cases found
      exact body.symm
  | false =>
      by_contra bare
      have body : (!node.children.isEmpty) = true := by simpa using bare
      rw [Directive.opensBody_iff.2 ⟨_, read, body⟩] at opens
      cases opens

/-- The lines of a directive with a body. -/
theorem rows_of_body {node : Node} (kind : node.kind = .directive) (filled : node.children ≠ [])
    (named : Directive.isName node.name = true) (free : ∀ arguments ∈ node.arguments, '\n' ∉ arguments) :
    node.rows = node.directiveLine ::
      (node.bodyRows.map (Text.leadLine (List.replicate 4 ' ')) ++ [['}']]) := by
  have line := @Directive.newline_not_mem_spelled ⟨node.name, node.arguments, true⟩ named free
  rw [rows_directive kind line, if_neg (by simpa using filled)]
  rfl

/-- The brace of the first line is closed by the last one, and what is between settles by itself. -/
theorem settles_directive {node : Node} (kind : node.kind = .directive)
    (named : Directive.isName node.name = true) (free : ∀ arguments ∈ node.arguments, '\n' ∉ arguments)
    (each : ∀ child ∈ node.children, SettlesNode child) : SettlesNode node := by
  have opens := opensBody_directiveLine named
  rw [SettlesNode, Node.hiddenHeads_directive kind]
  by_cases bare : node.children = []
  · have line := @Directive.newline_not_mem_spelled ⟨node.name, node.arguments, true⟩ named free
    have none : node.children.isEmpty = true := by rw [bare]; rfl
    have plain : beginsWithBody [node] = false := by simp [beginsWithBody, none]
    rw [none] at opens
    rw [plain, rows_directive kind line, if_pos none, bare]
    refine settles_neutral (List.cons_ne_nil _ _) fun row member => ?_
    rw [List.mem_singleton.1 member]
    exact ⟨opens, Directive.closesBody_eq_false (by decide) (by decide) _⟩
  · have present : node.children.isEmpty = false := by simpa using bare
    have heads : beginsWithBody [node] = true := by simp [beginsWithBody, kind, present]
    rw [present] at opens
    rw [heads, rows_of_body kind bare named free]
    exact (settles_blocks bare each).wrapped node.directiveLine opens 4

/-- A list adds no braces of its own, and hides those at the head of its items. -/
theorem settles_list {node : Node} (list : node.kind.isList = true)
    (marks : node.kind = .orderedList → ∀ item ∈ node.children, '\n' ∉ item.markup)
    (each : ∀ item ∈ node.children, ∀ child ∈ item.children, SettlesNode child) : SettlesNode node := by
  have plain : beginsWithBody [node] = false := by
    cases kind : node.kind <;> simp_all [beginsWithBody, Kind.isList]
  rw [SettlesNode, Node.hiddenHeads_list list, plain, Node.rows, Node.render_list list, Render.assembleList]
  by_cases none : node.children = []
  · rw [none]
    exact settles_empty
  · have some : Render.items node.kind node.isTight node.firstNumber (renderItems node.children) ≠ [] := by
      obtain ⟨item, items, shape⟩ := List.exists_cons_of_ne_nil none
      simp [shape, renderItems_eq, Render.items]
    rw [Text.lines_joinWith_gap _ some]
    exact settles_items node.kind node.isTight node.firstNumber none marks each

/-- **What a node closes too many:** one body for each directive whose first line stands behind a mark. -/
theorem settles_of_isBraced {node : Node} (braced : node.IsBraced) : SettlesNode node := by
  induction braced with
  | @paragraph node kind quiet =>
      have plain : beginsWithBody [node] = false := by simp [beginsWithBody, kind]
      rw [SettlesNode, Node.hiddenHeads_paragraph kind, plain]
      exact settles_neutral (Text.lines_ne_nil _) quiet
  | directive kind named free children ih => exact settles_directive kind named free ih
  | list kind marks children ih => exact settles_list kind marks ih

/-! ## The search in a rendered text -/

def Frame.ofText (t : Text) : Frame := { lines := readLines t, limit := (readLines t).length }

theorem Line.body_ofText (terminated : Bool) (t : Text) :
    (Line.ofText terminated t).body = t.dropWhile isIndent := by
  rw [Line.body, Line.ofText, Nat.zero_add]
  exact drop_leading t

/-- Without its indentation, the last piece is the same whether it counts as a line or not. -/
theorem Line.body_ofPieces (pieces : List Text) (n : Nat) :
    (((Line.ofPieces pieces)[n]?).getD .absent).body = ((pieces[n]?).getD []).dropWhile isIndent := by
  induction pieces using Line.ofPieces.induct generalizing n with
  | case1 => rfl
  | case2 last blank =>
      -- The line that is left out holds nothing.
      have nothing : last.dropWhile isIndent = [] :=
        List.dropWhile_eq_nil_iff.2 (List.all_eq_true.1 blank)
      rw [Line.ofPieces, if_pos blank]
      cases n with
      | zero => exact nothing.symm
      | succ n => rfl
  | case3 last filled =>
      rw [Line.ofPieces, if_neg filled]
      cases n with
      | zero => exact body_ofText false last
      | succ n => rfl
  | case4 piece next pieces ih =>
      rw [Line.ofPieces]
      cases n with
      | zero => exact body_ofText true piece
      | succ n => exact ih n

theorem Frame.body_ofText (t : Text) (n : Nat) :
    (ofText t).body n = (((Text.lines t)[n]?).getD []).dropWhile isIndent :=
  Line.body_ofPieces (Text.lines t) n

/-- Below its first line, the search sees the other lines of a text. -/
theorem Frame.bodies_ofText {t row : Text} {rows : List Text} (lines : Text.lines t = row :: rows) :
    (range 1 (rows.length + 1)).map (ofText t).body = seen rows := by
  rw [range, List.map_map, Nat.add_sub_cancel]
  refine List.ext_getElem (by simp [seen]) fun i left right => ?_
  have inside : i < rows.length := by simpa [seen] using right
  simp [seen, body_ofText, lines, Nat.add_comm 1, inside]

/-- A text that begins without indentation does not begin with code. -/
theorem Frame.isCode_ofText {t row : Text} {rows : List Text} (lines : Text.lines t = row :: rows)
    (solid : row.IsSolid) : (ofText t).isCode 0 = false := by
  have each : ∀ terminated, (Line.ofText terminated row).indent = 0 := by
    simp [Line.ofText, solid.takeWhile, columnAfter]
  have level : ((ofText t).line 0).indent = 0 := by
    rw [Frame.line, ofText, readLines, lines]
    cases rows with
    | nil =>
        have filled : ¬ row.all isIndent = true := by
          obtain ⟨c, rest, rfl, indents⟩ := solid.eq_cons
          simp [indents]
        rw [Line.ofPieces, if_neg filled]
        exact each false
    | cons next rows => exact each true
  rw [Frame.isCode, level]
  rfl

/-- **The closing brace that is found for a rendered directive.** There always is one, and the directive is
read up to it. It is the last line exactly if no item inside begins with a directive that has a body. -/
theorem closingLine?_rendered {node : Node} (directive : node.kind = .directive) (filled : node.children ≠ [])
    (braced : node.IsBraced) :
    ∃ c, Command.closingLine? (Frame.ofText node.render) 0 node.rows.length = some c ∧
      (∀ inner definitions, ∃ reading,
        Command.readDirective? inner (Frame.ofText node.render) definitions 0 node.rows.length =
          some reading ∧ reading.stop = c + 1) ∧
      (c + 1 = node.rows.length ↔ node.hiddenHeads = 0) := by
  cases braced with
  | paragraph kind => rw [directive] at kind; cases kind
  | list kind => rw [directive] at kind; cases kind
  | directive kind named free children =>
      have settles := @settles_blocks true node.children filled fun child member =>
        settles_of_isBraced (children child member)
      obtain ⟨n, closed, last⟩ := settles.exists_closing
      have rows : Text.lines node.render = _ := rows_of_body directive filled named free
      have found : Command.closingLine? (Frame.ofText node.render) 0 (Text.lines node.render).length =
          some (1 + n) := by
        rw [Command.closingLine?, Nat.zero_add, rows, List.length_cons, Frame.bodies_ofText rows, seen_append,
          seen_leadLine]
        exact congrArg (Option.map (1 + ·)) closed
      refine ⟨1 + n, found, fun inner definitions => ?_, ?_⟩
      · refine Command.readDirective?_closed inner definitions ?_ ?_ found
        · exact Frame.isCode_ofText rows (Text.isSolid_cons rfl _)
        · rw [Frame.body_ofText, rows]
          exact (opensBody_directiveLine named).trans (by simpa using filled)
      · rw [Node.hiddenHeads_directive directive, ← last, Node.rows, rows, ← Node.bodyRows, List.length_cons,
          List.length_append, List.length_map, List.length_singleton]
        omega

def directiveNode (name : String) (children : List Node) : Node :=
  { kind := .directive, children
    traits := [("name".toList, .str name.toList), ("arguments".toList, .null)] }

def textBlock (content : String) : Node := Node.paragraph [Node.plain content.toList] none

/-- Directives behind the paragraphs of items, in a list that begins below zero. -/
def listedBodies : Node :=
  directiveNode "A"
    [{ kind := .orderedList
       attrs := [("start".toList, .int (-1))]
       children :=
        [{ kind := .listItem, markup := [')']
           children := [textBlock "p \x7b\n\x7dq", directiveNode "B" [textBlock "r"]] },
         { kind := .listItem }] },
     directiveNode "C" []]

/-- Braces in the text of items and a numeral below zero do not keep the body from being closed by the last
line. -/
theorem closingLine?_rendered_listedBodies :
    listedBodies.IsBraced ∧ listedBodies.hiddenHeads = 0 ∧
    listedBodies.render =
      ("@A \x7b\n    -1) p \x7b\n        \x7dq\n" ++
        "        @B \x7b\n            r\n        \x7d\n    0.\n\n    @C\n\x7d").toList ∧
    ∃ c, Command.closingLine? (Frame.ofText listedBodies.render) 0 listedBodies.rows.length = some c ∧
      c + 1 = listedBodies.rows.length := by
  have inner : (directiveNode "B" [textBlock "r"]).IsBraced :=
    .directive rfl (by decide) (by decide)
      (List.forall_mem_singleton.2 (.paragraph rfl (by decide)))
  have blocks : ∀ child ∈ [textBlock "p \x7b\n\x7dq", directiveNode "B" [textBlock "r"]], child.IsBraced :=
    List.forall_mem_cons.2 ⟨.paragraph rfl (by decide), List.forall_mem_singleton.2 inner⟩
  have braced : listedBodies.IsBraced := by
    refine .directive rfl (by decide) (by decide)
      (List.forall_mem_cons.2 ⟨.list rfl ?_ ?_, List.forall_mem_singleton.2 ?_⟩)
    · exact fun _ => List.forall_mem_cons.2 ⟨by decide, List.forall_mem_singleton.2 (by decide)⟩
    · exact List.forall_mem_cons.2 ⟨blocks, List.forall_mem_singleton.2 (List.forall_mem_nil _)⟩
    · exact .directive rfl (by decide) (by decide) (List.forall_mem_nil _)
  have none : listedBodies.hiddenHeads = 0 := by decide
  obtain ⟨c, closed, -, last⟩ := closingLine?_rendered rfl (List.cons_ne_nil _ _) braced
  exact ⟨braced, none, by decide, c, closed, last.2 none⟩

/-- A directive with a list inside, whose only item begins with a directive. -/
def itemBody : Node :=
  directiveNode "A"
    [{ kind := .bulletList
       children := [{ kind := .listItem, children := [directiveNode "B" [textBlock "x"]] }] }]

/-- The brace that is found for the outer directive is the one of the inner directive, not its last line. -/
theorem closingLine?_itemBody :
    itemBody.IsBraced ∧ itemBody.kind = .directive ∧ itemBody.children ≠ [] ∧
    itemBody.render = "@A \x7b\n    - @B \x7b\n          x\n      \x7d\n\x7d".toList ∧
    itemBody.rows.length = 5 ∧
    Command.closingLine? (Frame.ofText itemBody.render) 0 5 = some 3 := by
  have inner : (directiveNode "B" [textBlock "x"]).IsBraced :=
    .directive rfl (by decide) (by decide)
      (List.forall_mem_singleton.2 (.paragraph rfl (by decide)))
  have braced : itemBody.IsBraced :=
    .directive rfl (by decide) (by decide)
      (List.forall_mem_singleton.2 (.list rfl (by simp)
        (List.forall_mem_singleton.2 (List.forall_mem_singleton.2 inner))))
  exact ⟨braced, rfl, List.cons_ne_nil _ _, by decide, by decide, by decide⟩

end Markdown

end DocComment
