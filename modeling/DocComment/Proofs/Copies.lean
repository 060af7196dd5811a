/- Elements that spell a node. An element spells a node if the block that it is converted to is a copy of
the node: of the same kind, with the same text, and without commands inside. Copies may differ from the
node in their ranges and in how inlines were written before they were rendered. -/
import DocComment.Markdown.Document
import DocComment.Proofs.Leaves
import DocComment.Proofs.Stability
import Mathlib.Data.List.Forall2

namespace DocComment

set_option autoImplicit false

open Markdown (fillInlines fillAll)

/-! ## Lists with a single block -/

/-- Whether a list has one item with one block. -/
def Node.isLone (node : Node) : Bool := node.children.map (·.children.length) == [1]

/-- Whether a list is rendered without empty lines. The items of a list with a single block are not
separated, whether they should be or not. -/
def Node.readsTight (node : Node) : Bool := node.isTight || node.isLone

theorem Node.isLone_eq {node : Node} (lone : node.isLone = true) :
    ∃ item block, node.children = [item] ∧ item.children = [block] := by
  simp only [isLone, beq_iff_eq, List.map_eq_singleton_iff] at lone
  obtain ⟨item, items, single⟩ := lone
  obtain ⟨block, blocks⟩ := List.length_eq_one_iff.1 single
  exact ⟨item, block, items, blocks⟩

/-- With one item of one block there is nothing to separate, so the gap does not matter. -/
theorem Node.render_readsTight {node : Node} (list : node.kind.isList = true) :
    node.render = Text.joinWith (Render.gap node.readsTight)
      (Render.items node.kind node.readsTight node.firstNumber (renderItems node.children)) := by
  rw [render_list list, Render.assembleList]
  cases tight : node.isTight with
  | true => simp [readsTight, tight]
  | false =>
      cases lone : node.isLone with
      | false => simp [readsTight, tight, lone]
      | true =>
          obtain ⟨item, block, items, blocks⟩ := isLone_eq lone
          simp only [items, renderItems_eq, List.map_cons, List.map_nil, blocks, renderAll_eq]
          rfl

theorem exists_of_forall₂ {α β : Type} {r : α → β → Prop} {xs : List α} {ys : List β}
    (each : List.Forall₂ r xs ys) {x : α} (member : x ∈ xs) : ∃ y ∈ ys, r x y := by
  induction each with
  | nil => cases member
  | cons one _ ih =>
      rcases List.mem_cons.1 member with rfl | member
      · exact ⟨_, List.mem_cons_self .., one⟩
      · obtain ⟨y, memberY, related⟩ := ih member
        exact ⟨y, List.mem_cons_of_mem _ memberY, related⟩

/-! ## Copies -/

/-- The inlines that a text is read as by itself. -/
def inlinesOf (t : Text) : List Node := Element.toInlines (Markdown.Inline.read [] t)

/-- Whether a text is spelled as its inlines are rendered. -/
def Text.IsSettled (t : Text) : Prop := renderInlines (inlinesOf t) = t

instance (t : Text) : Decidable t.IsSettled := inferInstanceAs (Decidable (_ = _))

/-- The items of two lists begin with the same paragraph. -/
structure HeadCopies (copy item : Node) : Prop where
  kind : copy.kind = .listItem
  head : ∃ first others, copy.children = first :: others ∧ first.kind = .paragraph ∧
    ∃ text, item.children.head?.map Node.render = some text ∧ first.children = inlinesOf text

/-- A node that is rendered as another one and from which a harvest takes no command. -/
structure Copies (copy node : Node) : Prop where
  kind : copy.kind = node.kind
  render : copy.render = node.render
  quiet : Harvest.takings .inner copy = []
  inlines : node.kind = .paragraph → copy.children = inlinesOf node.render
  items : node.kind = .bulletList → List.Forall₂ HeadCopies copy.children node.children

/-- Whatever the source, the block of an element is a copy of a node. -/
def Element.Yields (element : Element) (node : Node) : Prop :=
  ∀ source, ∃ copy, Element.toBlock source (fillInlines [] element) = .ok copy ∧ Copies copy node

/-- An element that yields a copy of a node, and that is shown as a block of its own. -/
structure Spells (element : Element) (node : Node) : Prop where
  kind : element.kind = node.kind
  shown : element.hidden = false
  yields : element.Yields node

theorem Copies.renderAll_eq {copies nodes : List Node} (copied : List.Forall₂ Copies copies nodes) :
    renderAll copies = renderAll nodes := by
  induction copied with
  | nil => rfl
  | cons one _ ih => rw [renderAll, renderAll, one.render, ih]

/-- A node from whose children nothing is taken, and that is no command itself. -/
theorem takings_inner_eq_nil {node : Node} (other : node.kind.isCommand = false)
    (quiet : ∀ child ∈ node.children, Harvest.takings .inner child = []) :
    Harvest.takings .inner node = [] := by
  have below : ∀ kind, Harvest.Place.below .inner kind = .inner := fun kind => by cases kind <;> rfl
  rw [Harvest.takings_eq, if_neg (by simp [Harvest.isTaken, other])]
  split
  · rfl
  · rw [below]
    exact List.flatMap_eq_nil_iff.2 quiet

theorem takings_inner_inlines {node : Node} (inlines : node.kind.holdsInlines = true)
    (other : node.kind.isCommand = false) : Harvest.takings .inner node = [] := by
  rw [Harvest.takings_eq, if_neg (by simp [Harvest.isTaken, other]), if_pos inlines]

theorem Copies.quiet_of_mem {copies nodes : List Node} (copied : List.Forall₂ Copies copies nodes) :
    ∀ copy ∈ copies, Harvest.takings .inner copy = [] := by
  intro copy member
  obtain ⟨node, -, one⟩ := exists_of_forall₂ copied member
  exact one.quiet

/-! ## Conversion, element by element -/

section

variable (definitions : Markdown.Definitions) (element : Element)

theorem fillAll_eq (elements : List Element) :
    fillAll definitions elements = elements.map (fillInlines definitions) := by
  induction elements with
  | nil => rfl
  | cons element elements ih => rw [fillAll, ih, List.map_cons]

@[simp] theorem fillInlines_kind : (fillInlines definitions element).kind = element.kind := by
  cases element
  rfl

@[simp] theorem fillInlines_hidden : (fillInlines definitions element).hidden = element.hidden := by
  cases element
  rfl

theorem fillInlines_eq (block : element.kind ≠ Markdown.inlineKind) :
    fillInlines definitions element =
      { element with children := element.children.map (fillInlines definitions) } := by
  obtain ⟨kind, tag, children, content, markup, info, attrs, traits, span, hidden⟩ := element
  rw [fillInlines, if_neg block, fillAll_eq]

end

/-- Elements that yield copies of nodes do so together. -/
theorem toBlocks_of_yields {elements : List Element} {nodes : List Node}
    (yields : List.Forall₂ Element.Yields elements nodes) (source : List Text) :
    ∃ copies, Element.toBlocks source (elements.map (fillInlines [])) = .ok copies ∧
      List.Forall₂ Copies copies nodes := by
  induction yields with
  | nil => exact ⟨[], rfl, .nil⟩
  | cons one _ ih =>
      obtain ⟨copy, converted, copied⟩ := one source
      obtain ⟨copies, convertedRest, copiedRest⟩ := ih
      refine ⟨copy :: copies, ?_, .cons copied copiedRest⟩
      rw [List.map_cons, Element.toBlocks, converted, convertedRest]
      rfl

/-- Quotes, items and directives have the blocks of their children. -/
theorem toBlock_container {source : List Text} {element : Element} {blocks : List Node}
    (container : element.kind ∈ [.quote, .listItem, .directive])
    (converted : Element.toBlocks source (element.children.map (fillInlines [])) = .ok blocks) :
    ∃ range, Element.toBlock source (fillInlines [] element) =
      .ok { kind := element.kind, children := blocks, content := element.content
            markup := element.markup, info := element.info, traits := element.traits, range } := by
  obtain ⟨kind, tag, children, content, markup, info, attrs, traits, span, hidden⟩ := element
  simp only [List.mem_cons, List.not_mem_nil, or_false] at container
  rcases container with rfl | rfl | rfl
  all_goals
    simp only [fillInlines, fillAll_eq, Element.toBlock]
    rw [if_neg (by decide), converted]
    exact ⟨_, rfl⟩

/-- Whether a paragraph is hidden does not matter for its own block. -/
theorem toBlock_hidden (source : List Text) (element : Element) (hidden : Bool) :
    Element.toBlock source (fillInlines [] { element with hidden }) =
      Element.toBlock source (fillInlines [] element) := by
  obtain ⟨kind, tag, children, content, markup, info, attrs, traits, span, shown⟩ := element
  cases kind <;> rfl

/-! ## Blocks without blocks inside -/

variable {node : Node}

theorem Copies.of_other {copy : Node} (paragraph : node.kind ≠ .paragraph)
    (list : node.kind ≠ .bulletList) (kind : copy.kind = node.kind) (render : copy.render = node.render)
    (quiet : Harvest.takings .inner copy = []) : Copies copy node :=
  ⟨kind, render, quiet, fun other => absurd other paragraph, fun other => absurd other list⟩

theorem spells_paragraph (paragraph : node.kind = .paragraph) (settled : node.render.IsSettled)
    (first stop : Nat) : Spells (Markdown.paragraphElement node.render first stop) node := by
  refine ⟨paragraph.symm, rfl, fun source => ⟨_, rfl, ?_⟩⟩
  refine ⟨paragraph.symm, ?_, takings_inner_inlines rfl rfl, fun _ => rfl, fun list => ?_⟩
  · rw [Node.render_other rfl]
    exact settled
  · rw [paragraph] at list
    cases list

theorem level_heading {level : Nat} (positive : 1 ≤ level) (small : level ≤ 6) :
    Element.level ('h' :: Text.ofNat level) = .ok (level : Int) := by
  have cases : level = 1 ∨ level = 2 ∨ level = 3 ∨ level = 4 ∨ level = 5 ∨ level = 6 := by omega
  rcases cases with rfl | rfl | rfl | rfl | rfl | rfl <;> rfl

/-- A heading has its level in its tag, as a digit, and gets it back from there. -/
theorem spells_heading {level : Nat} (heading : node.kind = .heading) (levels : node.level = level)
    (positive : 1 ≤ level) (small : level ≤ 6) (settled : (renderInlines node.children).IsSettled)
    (markup : Text) (first textStop stop : Nat) :
    Spells (Markdown.Heading.element level (renderInlines node.children) markup first textStop stop)
      node := by
  have converted : ∀ source, ∃ range,
      Element.toBlock source (fillInlines [] (Markdown.Heading.element level
        (renderInlines node.children) markup first textStop stop)) =
      .ok { kind := .heading, children := inlinesOf (renderInlines node.children), markup, range
            traits := [("level".toList, .int level)] } := by
    intro source
    rw [Markdown.Heading.element, fillInlines, Element.toBlock, level_heading positive small]
    exact ⟨_, rfl⟩
  refine ⟨heading.symm, rfl, fun source => ?_⟩
  obtain ⟨range, converted⟩ := converted source
  refine ⟨_, converted, .of_other (by simp [heading]) (by simp [heading]) heading.symm ?_
    (takings_inner_inlines rfl rfl)⟩
  have same : (renderAll (inlinesOf (renderInlines node.children))).flatten =
      (renderAll node.children).flatten := settled
  rw [Node.render_other rfl, Node.render_other (by rw [heading]; rfl)]
  simp only [Render.assemble, heading, levels, same]
  rfl

theorem spells_rule (rule : node.kind = .rule) (markup : Text) (span : Option (Nat × Nat)) :
    Spells { kind := .rule, tag := "hr".toList, markup, span } node := by
  refine ⟨rule.symm, rfl, fun source => ⟨_, rfl, .of_other (by simp [rule]) (by simp [rule]) rule.symm ?_
    rfl⟩⟩
  rw [Node.render_other rfl, Node.render_other (by rw [rule]; rfl)]
  simp only [Render.assemble, rule]

theorem dropNewlines_append {newlines : Text} (only : ∀ c ∈ newlines, c = '\n') (t : Text) :
    Render.dropNewlines (t ++ newlines) = Render.dropNewlines t := by
  unfold Render.dropNewlines
  induction t with
  | nil =>
      induction newlines with
      | nil => rfl
      | cons c newlines ih =>
          obtain ⟨rfl, rest⟩ := List.forall_mem_cons.1 only
          simp only [List.nil_append, Text.dropRightWhile] at ih ⊢
          rw [ih rest]
          rfl
  | cons c t ih => rw [List.cons_append, Text.dropRightWhile, ih, Text.dropRightWhile]

theorem dropNewlines_dropNewlines (t : Text) :
    Render.dropNewlines (Render.dropNewlines t) = Render.dropNewlines t :=
  Text.dropRightWhile_of_last fun c last =>
    @Text.getLast?_dropRightWhile (· == '\n') t c last

def Node.codeLines (node : Node) : List Text := Text.lines (Render.dropNewlines node.content)

/-- Code that is written line by line is rendered from the same lines. -/
theorem dropNewlines_codeLines (node : Node) :
    Render.dropNewlines (Text.unlines node.codeLines ++ ['\n']) = Render.dropNewlines node.content := by
  rw [Node.codeLines, Text.unlines_lines, dropNewlines_append (by simp), dropNewlines_dropNewlines]

theorem flatMap_newline {pieces : List Text} (filled : pieces ≠ []) :
    pieces.flatMap (· ++ ['\n']) = Text.unlines pieces ++ ['\n'] := by
  induction pieces with
  | nil => exact absurd rfl filled
  | cons piece rest ih =>
      by_cases more : rest = []
      · simp [more, Text.unlines, Text.joinWith]
      · rw [List.flatMap_cons, ih more, Text.unlines_cons more]
        simp

def Node.fenceMarks (node : Node) : Text :=
  if node.markup.isEmpty then ['`', '`', '`'] else node.markup

/-- The code was read line by line, each with its newline; rendering drops the last of these. -/
theorem spells_fence (fence : node.kind = .fence) (marks : node.fenceMarks ≠ [])
    (span : Option (Nat × Nat)) :
    Spells { kind := .fence, tag := "code".toList, content := node.codeLines.flatMap (· ++ ['\n'])
             markup := node.fenceMarks, info := node.info, span } node := by
  refine ⟨fence.symm, rfl, fun source => ⟨_, rfl, .of_other (by simp [fence]) (by simp [fence])
    fence.symm ?_ rfl⟩⟩
  rw [Node.render_other rfl, Node.render_other (by rw [fence]; rfl)]
  have filled : node.fenceMarks.isEmpty = false := by simpa using marks
  simp only [Render.assemble, fence, flatMap_newline (Text.lines_ne_nil _), Node.codeLines] at filled ⊢
  rw [← Node.codeLines, dropNewlines_codeLines, filled]
  rfl

theorem spells_code (code : node.kind = .codeBlock) (span : Option (Nat × Nat)) :
    Spells { kind := .codeBlock, tag := "code".toList, content := Text.unlines node.codeLines ++ ['\n']
             span } node := by
  refine ⟨code.symm, rfl, fun source => ⟨_, rfl, .of_other (by simp [code]) (by simp [code])
    code.symm ?_ rfl⟩⟩
  rw [Node.render_other rfl, Node.render_other (by rw [code]; rfl)]
  simp only [Render.assemble, code, dropNewlines_codeLines]

/-! ## Quotes and lists -/

theorem spells_quote {element : Element} (quote : node.kind = .quote) (kind : element.kind = .quote)
    (shown : element.hidden = false)
    (spelled : List.Forall₂ Spells element.children node.children) : Spells element node := by
  refine ⟨kind.trans quote.symm, shown, fun source => ?_⟩
  obtain ⟨copies, converted, copied⟩ := toBlocks_of_yields (spelled.imp fun _ _ => Spells.yields) source
  obtain ⟨range, block⟩ := toBlock_container (by simp [kind]) converted
  rw [kind] at block
  refine ⟨_, block, .of_other (by simp [quote]) (by simp [quote]) quote.symm ?_
    (takings_inner_eq_nil rfl (Copies.quiet_of_mem copied))⟩
  rw [Node.render_other rfl, Node.render_other (by rw [quote]; rfl)]
  simp only [Render.assemble, quote, Copies.renderAll_eq copied]

/-- The name and the arguments of a directive pass through its traits. -/
theorem spells_directive {directive : Markdown.Directive} {element : Element}
    (isDirective : node.kind = .directive) (kind : element.kind = .directive)
    (shown : element.hidden = false) (name : directive.name = node.name)
    (arguments : directive.arguments = node.arguments) (traits : element.traits = directive.traits)
    (spelled : List.Forall₂ Spells element.children node.children) : Spells element node := by
  refine ⟨kind.trans isDirective.symm, shown, fun source => ?_⟩
  obtain ⟨copies, converted, copied⟩ := toBlocks_of_yields (spelled.imp fun _ _ => Spells.yields) source
  obtain ⟨range, block⟩ := toBlock_container (by simp [kind]) converted
  rw [kind, traits] at block
  refine ⟨_, block, .of_other (by simp [isDirective]) (by simp [isDirective]) isDirective.symm ?_
    (takings_inner_eq_nil rfl (Copies.quiet_of_mem copied))⟩
  have head : ∀ copy : Node, copy.traits = directive.traits →
      Render.directiveHead copy = Render.directiveHead node := by
    intro copy same
    have nameCopy : copy.name = node.name := by
      rw [← name, Node.name, same]
      rfl
    have argumentsCopy : copy.arguments = node.arguments := by
      have found : directive.traits.lookup "arguments".toList =
          some (Json.optionalText directive.arguments) := rfl
      rw [← arguments, Node.arguments, same, found]
      cases directive.arguments <;> rfl
    rw [Render.directiveHead, nameCopy, argumentsCopy, Render.directiveHead]
  have none : copies.isEmpty = node.children.isEmpty := by
    rw [Bool.eq_iff_iff, List.isEmpty_iff_length_eq_zero, List.isEmpty_iff_length_eq_zero,
      copied.length_eq]
  rw [Node.render_other rfl, Node.render_other (by rw [isDirective]; rfl)]
  simp only [Render.assemble, isDirective, none, Copies.renderAll_eq copied]
  rw [head _ rfl]

/-- An element for an item of a list, with elements for its blocks. -/
structure SpellsItem (sign : Char) (element : Element) (item : Node) : Prop where
  kind : element.kind = .listItem
  markup : element.markup = [sign]
  children : List.Forall₂ Spells element.children item.children

def Node.IsHeaded (item : Node) : Prop := item.children.head?.map Node.kind = some .paragraph

theorem Node.IsHeaded.eq_cons {item : Node} (headed : item.IsHeaded) :
    ∃ first others, item.children = first :: others ∧ first.kind = .paragraph := by
  unfold IsHeaded at headed
  cases shape : item.children with
  | nil => simp [shape] at headed
  | cons first others => exact ⟨first, others, rfl, by simpa [shape] using headed⟩

structure CopiesItem (sign : Char) (copy item : Node) : Prop where
  head : HeadCopies copy item
  markup : copy.markup = [sign]
  children : List.Forall₂ Copies copy.children item.children

/-- The items of a list as its tightness shows them. -/
def showItems (tight : Bool) (items : List Element) : List Element :=
  if tight then items.map Markdown.Items.hideParagraphs else items

theorem yields_hideParagraphs {sign : Char} {element : Element} {item : Node}
    (spelled : SpellsItem sign element item) :
    List.Forall₂ Element.Yields (Markdown.Items.hideParagraphs element).children item.children := by
  refine List.forall₂_map_left_iff.2 (spelled.children.imp fun block original spells source => ?_)
  split
  · rw [toBlock_hidden]
    exact spells.yields source
  · exact spells.yields source

/-- An item is converted with its blocks, of which the first is a paragraph. -/
theorem toBlock_item {sign : Char} {element : Element} {item : Node} (kind : element.kind = .listItem)
    (markup : element.markup = [sign])
    (yields : List.Forall₂ Element.Yields element.children item.children) (headed : item.IsHeaded)
    (source : List Text) :
    ∃ copy, Element.toBlock source (fillInlines [] element) = .ok copy ∧ CopiesItem sign copy item := by
  obtain ⟨copies, converted, copied⟩ := toBlocks_of_yields yields source
  obtain ⟨range, block⟩ := toBlock_container (by simp [kind]) converted
  refine ⟨_, block, ⟨kind, ?_⟩, markup, copied⟩
  obtain ⟨first, others, shape, paragraph⟩ := headed.eq_cons
  rw [shape] at copied ⊢
  cases copied with
  | cons one rest =>
      exact ⟨_, _, rfl, one.kind.trans paragraph, first.render, rfl, one.inlines paragraph⟩

/-- Hiding the paragraphs of an item changes no block: how an item is shown does not show in its copy. -/
theorem toBlocks_items {sign : Char} {elements : List Element} {items : List Node} (tight : Bool)
    (spelled : List.Forall₂ (SpellsItem sign) elements items) (headed : ∀ item ∈ items, item.IsHeaded)
    (source : List Text) :
    ∃ copies, Element.toBlocks source ((showItems tight elements).map (fillInlines [])) = .ok copies ∧
      List.Forall₂ (CopiesItem sign) copies items := by
  induction spelled with
  | nil => exact ⟨[], by cases tight <;> rfl, .nil⟩
  | @cons element item elements items one _ ih =>
      obtain ⟨headedItem, headedItems⟩ := List.forall_mem_cons.1 headed
      obtain ⟨copies, convertedRest, copiedRest⟩ := ih headedItems
      have shown : ∃ copy, Element.toBlock source (fillInlines []
          (if tight then Markdown.Items.hideParagraphs element else element)) = .ok copy ∧
          CopiesItem sign copy item := by
        cases tight with
        | true =>
            exact @toBlock_item sign (Markdown.Items.hideParagraphs element) item one.kind one.markup
              (yields_hideParagraphs one) headedItem source
        | false =>
            exact toBlock_item one.kind one.markup (one.children.imp fun _ _ => Spells.yields) headedItem
              source
      obtain ⟨copy, converted, copied⟩ := shown
      refine ⟨copy :: copies, ?_, .cons copied copiedRest⟩
      have split : showItems tight (element :: elements) =
          (if tight then Markdown.Items.hideParagraphs element else element) ::
            showItems tight elements := by
        cases tight <;> rfl
      rw [split, List.map_cons, Element.toBlocks, converted, convertedRest]
      rfl

/-- Since every item begins with a paragraph, hiding them or not can be told from any item. -/
theorem isTight_showItems {sign : Char} {elements : List Element} {items : List Node} (tight : Bool)
    (spelled : List.Forall₂ (SpellsItem sign) elements items) (headed : ∀ item ∈ items, item.IsHeaded)
    (filled : items ≠ []) :
    Element.isTight ((showItems tight elements).map (fillInlines [])) = tight := by
  cases tight with
  | true =>
      simp only [showItems, if_true, Element.isTight, List.all_eq_true, List.mem_map]
      rintro _ ⟨_, ⟨element, member, rfl⟩, rfl⟩
      have kind : (Markdown.Items.hideParagraphs element).kind = .listItem := by
        obtain ⟨item, -, one⟩ := exists_of_forall₂ spelled member
        exact one.kind
      rw [fillInlines_eq _ _ (by rw [kind]; decide)]
      simp only [Markdown.Items.hideParagraphs, List.map_map, List.mem_map]
      rintro _ ⟨block, -, rfl⟩
      by_cases paragraph : block.kind = .paragraph <;> simp [paragraph]
  | false =>
      cases spelled with
      | nil => exact absurd rfl filled
      | @cons element item elements items one _ =>
          obtain ⟨first, others, shape, paragraph⟩ := (headed item (List.mem_cons_self ..)).eq_cons
          have children := one.children
          rw [shape] at children
          have block := one.kind
          obtain ⟨kind, tag, blocks, content, markup, info, attrs, traits, span, hidden⟩ := element
          obtain rfl : kind = .listItem := block
          cases children with
          | @cons head _ rest _ spells _ =>
              have filledItem := fillInlines_eq []
                ⟨.listItem, tag, head :: rest, content, markup, info, attrs, traits, span, hidden⟩
                (by decide : Kind.listItem ≠ _)
              simp only [showItems, Bool.false_eq_true, if_false, List.map_cons, Element.isTight,
                filledItem, List.all_cons, fillInlines_kind, fillInlines_hidden, spells.kind,
                spells.shown, paragraph]
              rfl

/-- The numbers of the items do not matter for bullets, nor does their markup. -/
theorem items_bullet (tight : Bool) (number : Int) (parts : List (Text × List Text)) :
    Render.items .bulletList tight number parts =
      parts.map fun part => Render.item ['-', ' '] (Text.joinWith (Render.gap tight) part.2) := by
  induction parts generalizing number with
  | nil => rfl
  | cons part parts ih =>
      obtain ⟨markup, blocks⟩ := part
      rw [Render.items, ih, List.map_cons]
      rfl

theorem CopiesItem.renderAll_eq {sign : Char} {copies items : List Node}
    (copied : List.Forall₂ (CopiesItem sign) copies items) :
    copies.map (fun copy => renderAll copy.children) = items.map fun item => renderAll item.children := by
  induction copied with
  | nil => rfl
  | cons one _ ih => rw [List.map_cons, List.map_cons, ih, Copies.renderAll_eq one.children]

theorem CopiesItem.renderItems_eq {sign : Char} {copies items : List Node}
    (copied : List.Forall₂ (CopiesItem sign) copies items)
    (markup : ∀ item ∈ items, item.markup = [sign]) : renderItems copies = renderItems items := by
  rw [DocComment.renderItems_eq, DocComment.renderItems_eq]
  induction copied with
  | nil => rfl
  | cons one _ ih =>
      obtain ⟨markupItem, markupRest⟩ := List.forall_mem_cons.1 markup
      rw [List.map_cons, List.map_cons, ih markupRest, Copies.renderAll_eq one.children, one.markup,
        markupItem]

theorem CopiesItem.isLone_eq {sign : Char} {copy : Node}
    (copied : List.Forall₂ (CopiesItem sign) copy.children node.children) :
    copy.isLone = node.isLone := by
  have lengths : copy.children.map (·.children.length) = node.children.map (·.children.length) :=
    List.forall₂_eq_eq_eq ▸ List.forall₂_map_left_iff.2 (List.forall₂_map_right_iff.2
      (copied.imp fun _ _ one => one.children.length_eq))
  rw [Node.isLone, lengths, Node.isLone]

theorem CopiesItem.quiet_of_mem {sign : Char} {copies items : List Node}
    (copied : List.Forall₂ (CopiesItem sign) copies items) :
    ∀ copy ∈ copies, Harvest.takings .inner copy = [] := by
  intro copy member
  obtain ⟨item, -, one⟩ := exists_of_forall₂ copied member
  refine takings_inner_eq_nil ?_ (Copies.quiet_of_mem one.children)
  rw [one.head.kind]
  rfl

/-- Lists of the same kind, tightness and first number are rendered alike if their items are. -/
theorem render_list_eq {sign : Char} {copy : Node} (list : node.kind.isList = true)
    (kind : copy.kind = node.kind) (tight : copy.isTight = node.readsTight)
    (number : node.kind = .orderedList → copy.firstNumber = node.firstNumber)
    (markup : node.kind = .orderedList → ∀ item ∈ node.children, item.markup = [sign])
    (copied : List.Forall₂ (CopiesItem sign) copy.children node.children) :
    copy.render = node.render := by
  have same : copy.readsTight = node.readsTight := by
    rw [Node.readsTight, tight, CopiesItem.isLone_eq copied, Node.readsTight, Bool.or_assoc, Bool.or_self]
  rw [Node.render_readsTight (kind ▸ list), Node.render_readsTight list, kind, same]
  cases shape : node.kind with
  | bulletList =>
      have same := congrArg (List.map fun blocks =>
        Render.item ['-', ' '] (Text.joinWith (Render.gap node.readsTight) blocks))
          (CopiesItem.renderAll_eq copied)
      simp only [List.map_map] at same
      simp only [items_bullet, renderItems_eq, List.map_map]
      exact congrArg _ same
  | orderedList => rw [number shape, CopiesItem.renderItems_eq copied (markup shape)]
  | _ => simp [shape, Kind.isList] at list

/-- A list gets its number from its attributes and its tightness from the paragraphs that are hidden. -/
theorem spells_list {sign : Char} {element : Element} {elements : List Element}
    (list : node.kind.isList = true) (kind : element.kind = node.kind) (shown : element.hidden = false)
    (children : element.children = showItems node.readsTight elements)
    (number : node.kind = .orderedList → Element.firstNumber element.attrs = .ok node.firstNumber)
    (markup : node.kind = .orderedList → ∀ item ∈ node.children, item.markup = [sign])
    (spelled : List.Forall₂ (SpellsItem sign) elements node.children) (filled : node.children ≠ [])
    (headed : ∀ item ∈ node.children, item.IsHeaded) : Spells element node := by
  refine ⟨kind, shown, fun source => ?_⟩
  obtain ⟨copies, converted, copied⟩ := toBlocks_items node.readsTight spelled headed source
  have tight := isTight_showItems node.readsTight spelled headed filled
  obtain ⟨elementKind, tag, blocks, content, marks, info, attrs, traits, span, hidden⟩ := element
  obtain rfl : elementKind = node.kind := kind
  obtain rfl : blocks = showItems node.readsTight elements := children
  have block : ∃ copy, Element.toBlock source (fillInlines []
        ⟨node.kind, tag, showItems node.readsTight elements, content, marks, info, attrs, traits, span,
          hidden⟩) = .ok copy ∧ copy.kind = node.kind ∧ copy.children = copies ∧
      copy.isTight = node.readsTight ∧ (node.kind = .orderedList → copy.firstNumber = node.firstNumber) := by
    cases shape : node.kind with
    | bulletList =>
        simp only [fillInlines, fillAll_eq, Element.toBlock]
        rw [if_neg (by decide), converted, tight]
        exact ⟨_, rfl, rfl, rfl, rfl, fun other => by cases other⟩
    | orderedList =>
        simp only [fillInlines, fillAll_eq, Element.toBlock]
        rw [if_neg (by decide), converted, tight, number shape]
        exact ⟨_, rfl, rfl, rfl, rfl, fun _ => rfl⟩
    | _ => simp [shape, Kind.isList] at list
  obtain ⟨copy, block, copyKind, rfl, copyTight, copyNumber⟩ := block
  have noCommand : copy.kind.isCommand = false := by
    rw [copyKind]
    cases shape : node.kind <;> simp_all [Kind.isList, Kind.isCommand]
  refine ⟨copy, block, copyKind, render_list_eq list copyKind copyTight copyNumber markup copied,
    takings_inner_eq_nil noCommand (CopiesItem.quiet_of_mem copied), fun other => ?_,
    fun _ => copied.imp fun _ _ => CopiesItem.head⟩
  rw [other] at list
  cases list

end DocComment
