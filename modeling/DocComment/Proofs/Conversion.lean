/- Every text has a document. The elements that are read can be converted: a heading has one of six
levels, and the first number of an ordered list is a number already (`Block.isReadable_readBlocks`). So
no text is refused (`exists_read`). -/
import DocComment.Proofs.Copies

namespace DocComment

set_option autoImplicit false

open Markdown (fillInlines fillAll)

/-! ## Elements that can be converted -/

/-- An element of a block in which whatever stands for a number can be read as one. -/
inductive Element.IsReadable : Element → Prop
  | leaf {element : Element}
      (kind : element.kind ∈ [.paragraph, .fence, .codeBlock, .htmlBlock, .rule]) :
      Element.IsReadable element
  | heading {element : Element} (kind : element.kind = .heading)
      (level : ∃ n, Element.level element.tag = .ok n) : Element.IsReadable element
  | container {element : Element}
      (kind : element.kind ∈
        [.quote, .bulletList, .listItem, .directive, .paramCommand, .returnsCommand])
      (children : ∀ child ∈ element.children, Element.IsReadable child) :
      Element.IsReadable element
  | ordered {element : Element} (kind : element.kind = .orderedList)
      (number : ∃ n, Element.firstNumber element.attrs = .ok n)
      (children : ∀ child ∈ element.children, Element.IsReadable child) :
      Element.IsReadable element

theorem Element.exists_toBlocks {source : List Text} :
    ∀ {elements : List Element}, (∀ e ∈ elements, ∃ node, Element.toBlock source e = .ok node) →
      ∃ nodes, Element.toBlocks source elements = .ok nodes
  | [], _ => ⟨[], rfl⟩
  | element :: elements, each => by
      obtain ⟨node, converted⟩ := each element List.mem_cons_self
      obtain ⟨nodes, rest⟩ := exists_toBlocks fun e listed => each e (List.mem_cons_of_mem _ listed)
      refine ⟨node :: nodes, ?_⟩
      rw [Element.toBlocks, converted, rest]
      rfl

theorem Element.exists_toBlocks_filled {definitions : Markdown.Definitions} {source : List Text}
    {elements : List Element}
    (each : ∀ e ∈ elements,
      ∃ node, Element.toBlock source (fillInlines definitions e) = .ok node) :
    ∃ nodes, Element.toBlocks source (fillAll definitions elements) = .ok nodes := by
  rw [fillAll_eq]
  apply Element.exists_toBlocks
  intro filled listed
  obtain ⟨e, member, rfl⟩ := List.mem_map.mp listed
  exact each e member

/-- The inlines that are filled in do not matter for whether an element can be converted. -/
theorem Element.IsReadable.exists_toBlock (definitions : Markdown.Definitions) (source : List Text)
    {element : Element} (readable : element.IsReadable) :
    ∃ node, Element.toBlock source (fillInlines definitions element) = .ok node := by
  induction readable with
  | @leaf element kind =>
    obtain ⟨_, tag, children, content, markup, info, attrs, traits, span, hidden⟩ := element
    simp only [List.mem_cons, List.not_mem_nil, or_false] at kind
    rcases kind with rfl | rfl | rfl | rfl | rfl <;> exact ⟨_, rfl⟩
  | @heading element kind level =>
    obtain ⟨_, tag, children, content, markup, info, attrs, traits, span, hidden⟩ := element
    obtain rfl := kind
    obtain ⟨n, read⟩ := level
    rw [fillInlines, Element.toBlock, read]
    exact ⟨_, rfl⟩
  | @container element kind children ih =>
    obtain ⟨nodes, converted⟩ := Element.exists_toBlocks_filled ih
    obtain ⟨_, tag, children, content, markup, info, attrs, traits, span, hidden⟩ := element
    simp only [List.mem_cons, List.not_mem_nil, or_false] at kind
    rcases kind with rfl | rfl | rfl | rfl | rfl | rfl
    all_goals
      simp only [fillInlines, Element.toBlock]
      rw [if_neg (by decide), converted]
      exact ⟨_, rfl⟩
  | @ordered element kind number children ih =>
    obtain ⟨nodes, converted⟩ := Element.exists_toBlocks_filled ih
    obtain ⟨_, tag, children, content, markup, info, attrs, traits, span, hidden⟩ := element
    obtain rfl := kind
    obtain ⟨n, read⟩ := number
    simp only [fillInlines, Element.toBlock]
    rw [if_neg (by decide), read, converted]
    exact ⟨_, rfl⟩

namespace Markdown

/-! ## Readers -/

def Reading.IsReadable (reading : Reading) : Prop := ∀ e ∈ reading.elements, e.IsReadable

def Reader.IsReadable (inner : Reader) : Prop :=
  ∀ (frame : Frame) (definitions : Definitions) (start stop : Nat),
    (inner frame definitions start stop).IsReadable

theorem isReadable_none : ∀ e ∈ ([] : List Element), e.IsReadable :=
  fun _ listed => absurd listed List.not_mem_nil

theorem isReadable_one {element : Element} (readable : element.IsReadable) :
    ∀ e ∈ [element], e.IsReadable := by
  intro e listed
  obtain rfl := List.mem_singleton.mp listed
  exact readable

theorem isReadable_paragraph (content : Text) (first stop : Nat) :
    (paragraphElement content first stop).IsReadable :=
  .leaf List.mem_cons_self

theorem isReadable_heading {level : Nat} (positive : 1 ≤ level) (small : level ≤ 6)
    (content markup : Text) (first textStop stop : Nat) :
    (Heading.element level content markup first textStop stop).IsReadable :=
  .heading rfl ⟨_, level_heading positive small⟩

section Leaves

variable {frame : Frame} {definitions : Definitions} {start stop : Nat} {reading : Reading}

theorem CodeBlock.isReadable (read : CodeBlock.read? frame definitions start stop = some reading) :
    reading.IsReadable := by
  unfold CodeBlock.read? at read
  split at read
  · obtain rfl := Option.some.inj read
    exact isReadable_one (.leaf (by simp))
  · cases read

theorem Fence.isReadable (read : Fence.read? frame definitions start stop = some reading) :
    reading.IsReadable := by
  unfold Fence.read? at read
  split at read
  · cases read
  · split at read
    · cases read
    · obtain rfl := Option.some.inj read
      exact isReadable_one (.leaf (by simp))

theorem Rule.isReadable (read : Rule.read? frame definitions start = some reading) :
    reading.IsReadable := by
  unfold Rule.read? at read
  split at read
  · cases read
  · obtain ⟨mark, -, rfl⟩ := Option.map_eq_some_iff.mp read
    exact isReadable_one (.leaf (by simp))

theorem HtmlBlock.isReadable (read : HtmlBlock.read? frame definitions start stop = some reading) :
    reading.IsReadable := by
  unfold HtmlBlock.read? at read
  split at read
  · cases read
  · split at read
    · cases read
    · obtain rfl := Option.some.inj read
      exact isReadable_one (.leaf (by simp))

/-- The level was counted, so the tag has one of the digits one to six. -/
theorem Heading.isReadable (read : Heading.read? frame definitions start = some reading) :
    reading.IsReadable := by
  unfold Heading.read? at read
  split at read
  · cases read
  · obtain ⟨⟨level, content⟩, parts, rfl⟩ := Option.map_eq_some_iff.mp read
    have bounds : 1 ≤ level ∧ level ≤ 6 := by
      unfold Heading.parts? at parts
      simp only [Option.ite_none_right_eq_some, Bool.and_eq_true, decide_eq_true_eq, Option.some.injEq,
        Prod.mk.injEq] at parts
      obtain ⟨⟨⟨positive, small⟩, -⟩, rfl, -⟩ := parts
      exact ⟨positive, small⟩
    exact isReadable_one (isReadable_heading bounds.1 bounds.2 ..)

variable {options : Options}

theorem Underline.isReadable (read : Underline.read? options frame definitions start stop = some reading) :
    reading.IsReadable := by
  unfold Underline.read? at read
  split at read
  · cases read
  · obtain ⟨⟨n, mark⟩, -, rfl⟩ := Option.map_eq_some_iff.mp read
    have bounds : 1 ≤ (if mark = '=' then 1 else 2) ∧ (if mark = '=' then 1 else 2) ≤ 6 := by
      split <;> decide
    exact isReadable_one (isReadable_heading bounds.1 bounds.2 ..)

theorem Definition.isReadable (read : Definition.read? options frame definitions start = some reading) :
    reading.IsReadable := by
  unfold Definition.read? at read
  split at read
  · cases read
  · obtain ⟨⟨definition, taken⟩, -, rfl⟩ := Option.map_eq_some_iff.mp read
    exact isReadable_none

end Leaves

/-! ## Containers -/

section Containers

variable {inner : Reader} {options : Options} {frame : Frame} {definitions : Definitions}
  {start stop : Nat} {reading : Reading}

theorem Quote.isReadable (inside : inner.IsReadable)
    (read : Quote.read? inner options frame definitions start stop = some reading) :
    reading.IsReadable := by
  unfold Quote.read? at read
  split at read
  · obtain rfl := Option.some.inj read
    exact isReadable_one (.container List.mem_cons_self (inside _ _ _ _))
  · cases read

theorem Items.isReadable_readItem (inside : inner.IsReadable) (n : Nat) (mark : ListMark) :
    (Items.readItem inner frame definitions n stop mark).IsReadable := by
  unfold Items.readItem
  simp only
  split
  · exact isReadable_none
  · exact inside _ _ _ _

/-- The items of a list hold what can be converted, one after the other. -/
theorem Items.isReadable_readItems (inside : inner.IsReadable) (count : Nat) :
    ∀ (definitions : Definitions) (n stop : Nat) (mark : ListMark) (loose : Bool),
      ∀ e ∈ (Items.readItems inner options frame count definitions n stop mark loose).elements,
        e.kind = .listItem ∧ ∀ child ∈ e.children, child.IsReadable := by
  induction count with
  | zero => exact fun _ _ _ _ _ _ listed => absurd listed List.not_mem_nil
  | succ count ih =>
    intro definitions n stop mark loose e listed
    have item : ∀ child ∈ (Items.readItem inner frame definitions n stop mark).elements,
        child.IsReadable := Items.isReadable_readItem inside n mark
    rw [Items.readItems] at listed
    simp only at listed
    split at listed
    · obtain rfl := List.mem_singleton.mp listed
      exact ⟨rfl, item⟩
    · rcases List.mem_cons.mp listed with rfl | later
      · exact ⟨rfl, item⟩
      · exact ih _ _ _ _ _ e later

theorem isReadable_hide {element : Element} (readable : element.IsReadable) (hidden : Bool) :
    Element.IsReadable { element with hidden } := by
  cases readable with
  | leaf kind => exact .leaf kind
  | heading kind level => exact .heading kind level
  | container kind children => exact .container kind children
  | ordered kind number children => exact .ordered kind number children

theorem Items.isReadable_hideParagraphs {item : Element} (kind : item.kind = .listItem)
    (children : ∀ child ∈ item.children, child.IsReadable) :
    (Items.hideParagraphs item).IsReadable := by
  refine .container (by simp [Items.hideParagraphs, kind]) ?_
  intro shown listed
  obtain ⟨block, member, rfl⟩ := List.mem_map.mp listed
  split
  · exact isReadable_hide (children block member) true
  · exact children block member

/-- The reader of a list gives its number as an integer, or leaves it out, so nothing is left that could not be
converted. -/
theorem Items.isReadable (inside : inner.IsReadable)
    (read : Items.read? inner options frame definitions start stop = some reading) :
    reading.IsReadable := by
  unfold Items.read? at read
  obtain ⟨mark, -, rfl⟩ := Option.map_eq_some_iff.mp read
  have items := @Items.isReadable_readItems inner options frame inside (stop - start) definitions
    start stop mark false
  refine isReadable_one ?_
  generalize Items.readItems inner options frame (stop - start) definitions start stop mark false =
    body at items ⊢
  have children : ∀ child ∈
      (if body.tight then body.elements.map Items.hideParagraphs else body.elements),
      child.IsReadable := by
    intro child listed
    split at listed
    · obtain ⟨item, member, rfl⟩ := List.mem_map.mp listed
      exact Items.isReadable_hideParagraphs (items item member).1 (items item member).2
    · exact .container (by simp [(items child listed).1]) (items child listed).2
  cases ordered : mark.digits.isSome with
  | false => exact .container (by simp) children
  | true =>
    refine .ordered (by simp) ?_ children
    -- the reader gives the number as an integer, or leaves it out
    by_cases one : mark.number = 1
    · exact ⟨1, by simp [one, Element.firstNumber]⟩
    · exact ⟨mark.number, by simp [one, Element.firstNumber]⟩

theorem isReadable_orElse {first second : Option Reading}
    (left : ∀ reading, first = some reading → reading.IsReadable)
    (right : ∀ reading, second = some reading → reading.IsReadable) :
    ∀ reading, (first <|> second) = some reading → reading.IsReadable := by
  intro reading read
  cases first with
  | none => exact right reading read
  | some tried => exact left reading read

theorem isReadable_getD {tried : Option Reading} {otherwise : Reading}
    (found : ∀ reading, tried = some reading → reading.IsReadable)
    (default : otherwise.IsReadable) : (tried.getD otherwise).IsReadable := by
  cases tried with
  | none => exact default
  | some reading => exact found reading rfl

theorem Command.isReadable_description
    (read : Command.readDescription? frame definitions start stop = some reading) :
    reading.IsReadable := by
  unfold Command.readDescription? at read
  split at read
  · cases read
  · obtain ⟨⟨described, first⟩, -, rfl⟩ := Option.map_eq_some_iff.mp read
    refine isReadable_one (.container (by cases described <;> simp [Described.kind]) ?_)
    intro child listed
    simp only at listed
    split at listed
    · cases listed
    · exact isReadable_one (isReadable_paragraph ..) child listed

theorem Command.isReadable_directive (inside : inner.IsReadable)
    (read : Command.readDirective? inner frame definitions start stop = some reading) :
    reading.IsReadable := by
  unfold Command.readDirective? at read
  split at read
  · cases read
  · obtain ⟨directive, -, rfl⟩ := Option.map_eq_some_iff.mp read
    simp only
    split
    · exact isReadable_one (.container (by simp) (inside _ _ _ _))
    · exact isReadable_one (.container (by simp) isReadable_none)

theorem Command.isReadable (inside : inner.IsReadable) :
    ∀ reading, Command.read? inner options frame definitions start stop = some reading →
      reading.IsReadable := by
  unfold Command.read?
  split
  · exact isReadable_orElse (fun _ => Command.isReadable_description)
      fun _ => Command.isReadable_directive inside
  · exact fun reading read => nomatch read

end Containers

/-! ## Blocks and documents -/

namespace Block

/-- Every block is read by one of the readers, and each of them was treated above. -/
theorem isReadable_read {inner : Reader} (inside : inner.IsReadable) (options : Options)
    (frame : Frame) (definitions : Definitions) (start stop : Nat) :
    (read inner options frame definitions start stop).IsReadable := by
  refine isReadable_getD ?_ (isReadable_one (isReadable_paragraph ..))
  refine isReadable_orElse (fun _ => CodeBlock.isReadable) ?_
  refine isReadable_orElse (fun _ => Fence.isReadable) ?_
  refine isReadable_orElse (fun _ => Quote.isReadable inside) ?_
  refine isReadable_orElse (fun _ => Rule.isReadable) ?_
  refine isReadable_orElse (fun _ => Items.isReadable inside) ?_
  refine isReadable_orElse (fun _ => Definition.isReadable) ?_
  refine isReadable_orElse (fun _ => HtmlBlock.isReadable) ?_
  refine isReadable_orElse (fun _ => Heading.isReadable) ?_
  exact isReadable_orElse (fun _ => Underline.isReadable) (Command.isReadable inside)

/-- By induction on the number of blocks: each step reads one block, which can be converted, and goes on. -/
theorem isReadable_readFrom {inner : Reader} (inside : inner.IsReadable) (options : Options)
    (frame : Frame) (count : Nat) :
    ∀ (definitions : Definitions) (n stop : Nat) (spaced tight : Bool),
      (readFrom inner options frame count definitions n stop spaced tight).IsReadable := by
  induction count with
  | zero => exact fun _ _ _ _ _ => isReadable_none
  | succ count ih =>
    intro definitions n stop spaced tight
    rw [readFrom]
    split
    · exact isReadable_none
    · simp only
      split
      · exact isReadable_none
      · split
        · exact isReadable_none
        · intro e listed
          rcases List.mem_append.mp listed with first | later
          · exact isReadable_read inside options frame definitions _ stop e first
          · exact ih _ _ _ _ _ e later

/-- Blocks can be converted, however deep they are nested. -/
theorem isReadable_readBlocks (options : Options) (fuel : Nat) :
    Reader.IsReadable (readBlocks options fuel) := by
  induction fuel with
  | zero => exact fun _ _ _ _ => isReadable_none
  | succ fuel ih =>
    intro frame definitions start stop
    exact isReadable_readFrom ih options frame (stop - start) definitions start stop false true

end Block

/-- Every text has a document. -/
theorem exists_read (options : Options) (source : Text) :
    ∃ tree, Markdown.read options source = .ok tree := by
  have readable : Reading.IsReadable (Block.readDocument options (readLines (normalText source))) :=
    Block.isReadable_readBlocks options (maxDepth + 1) _ _ _ _
  obtain ⟨nodes, converted⟩ := Element.exists_toBlocks_filled
    fun e listed => (readable e listed).exists_toBlock
      (Block.readDocument options (readLines (normalText source))).definitions
      (Text.lines (Text.plainNewlines source))
  refine ⟨Node.document nodes, ?_⟩
  rw [Markdown.read, Node.ofElement, readRoot, converted]
  rfl

end Markdown

end DocComment
