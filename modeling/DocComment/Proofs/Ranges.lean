/- Ranges of converted blocks. Conversion keeps every block at its place: what stands at the end of a way
in a document is the block that stands there in the parsed tree, and nothing else has a range
(`Element.at?_of_blockAt?`, `Element.blockAt?_of_at?`). A range begins in a line of the source and does not
end before it begins, whatever lines the block was given (`ofElement_ranges`).

The range of a paragraph begins where the first line of its text first occurs in the line of the source.
That is behind the marks of lists, quotes and commands unless the text occurs in them already
(`ofElement_startColumn`, `startColumn_numberedItem`). -/
import DocComment.Proofs.Blanks
import DocComment.Proofs.Conversion
import DocComment.Proofs.Tree

namespace DocComment

set_option autoImplicit false

theorem exists_of_bind_eq_ok {ε α β : Type} {x : Except ε α} {f : α → Except ε β} {b : β}
    (made : x >>= f = .ok b) : ∃ a, x = .ok a ∧ f a = .ok b := by
  cases x with
  | error fault => cases made
  | ok a => exact ⟨a, rfl, made⟩

namespace Text

/-! ## Occurrences and lines -/

/-- A piece stands at an offset of a text, and at no offset before that. -/
structure FirstAt (piece t : Text) (offset : Nat) : Prop where
  here : piece <+: t.drop offset
  first : ∀ j < offset, ¬ piece <+: t.drop j

theorem firstAt_zero {piece t : Text} (here : piece <+: t) : FirstAt piece t 0 :=
  ⟨here, fun j below => absurd below (Nat.not_lt_zero j)⟩

theorem firstAt_succ_iff {piece rest : Text} {c : Char} {k : Nat} :
    FirstAt piece (c :: rest) (k + 1) ↔ ¬ piece <+: c :: rest ∧ FirstAt piece rest k := by
  constructor
  · intro found
    exact ⟨found.first 0 (Nat.succ_pos k), found.here,
      fun j below => found.first (j + 1) (Nat.succ_lt_succ below)⟩
  · rintro ⟨not, here, first⟩
    refine ⟨here, fun j below => ?_⟩
    cases j with
    | zero => exact not
    | succ j => exact first j (Nat.lt_of_succ_lt_succ below)

/-- A piece has one first offset. -/
theorem FirstAt.unique {piece t : Text} {k l : Nat} (one : FirstAt piece t k)
    (other : FirstAt piece t l) : k = l := by
  rcases Nat.lt_trichotomy k l with below | same | above
  · exact absurd one.here (other.first k below)
  · exact same
  · exact absurd other.here (one.first l above)

/-- The search tries the offsets in order, so there is none before the one it gives. -/
theorem firstAt_offsetOf? {piece t : Text} {k : Nat} (found : offsetOf? piece t = some k) :
    FirstAt piece t k := by
  induction t generalizing k with
  | nil =>
      unfold offsetOf? at found
      split at found
      · next empty =>
          cases found
          rw [List.isEmpty_iff.mp empty]
          exact firstAt_zero List.nil_prefix
      · cases found
  | cons c rest ih =>
      unfold offsetOf? at found
      split at found
      · next starts =>
          cases found
          exact firstAt_zero (startsWith_iff.mp starts)
      · next differs =>
          obtain ⟨n, later, rfl⟩ := Option.map_eq_some_iff.mp found
          exact firstAt_succ_iff.mpr ⟨fun starts => differs (startsWith_iff.mpr starts), ih later⟩

/-- A piece that stands somewhere is found. -/
theorem exists_offsetOf? {piece t : Text} {k : Nat} (here : piece <+: t.drop k) :
    ∃ offset, offsetOf? piece t = some offset := by
  induction t generalizing k with
  | nil =>
      have empty : piece = [] := by simpa using here
      exact ⟨0, by rw [offsetOf?, empty]; rfl⟩
  | cons c rest ih =>
      unfold offsetOf?
      split
      · exact ⟨0, rfl⟩
      · next differs =>
          cases k with
          | zero => exact absurd (startsWith_iff.mpr here) differs
          | succ k =>
              obtain ⟨offset, later⟩ := ih here
              exact ⟨offset + 1, by rw [later]; rfl⟩

theorem offsetOf?_le {piece t : Text} {k : Nat} (found : offsetOf? piece t = some k) :
    k ≤ t.length := by
  have firstAt := firstAt_offsetOf? found
  apply Nat.le_of_not_lt
  intro beyond
  -- behind the end only the empty piece stands, which stands at the beginning too
  have empty : piece = [] := by
    have here := firstAt.here
    rwa [List.drop_eq_nil_of_le (Nat.le_of_lt beyond), List.prefix_nil] at here
  exact firstAt.first 0 (Nat.zero_lt_of_lt beyond) (empty ▸ List.nil_prefix)

theorem prefix_drop_lead (lead text : Text) : text <+: (lead ++ text).drop lead.length := by
  have same : (lead ++ text).drop lead.length = text := List.drop_left
  exact ⟨[], by rw [same, List.append_nil]⟩

/-- The lead of a text does not hide it: the text occurs behind the lead first. -/
theorem firstAt_length_iff {lead text : Text} {offset : Nat}
    (found : FirstAt text (lead ++ text) offset) :
    offset = lead.length ↔ ∀ j < lead.length, ¬ text <+: (lead ++ text).drop j := by
  constructor
  · rintro rfl
    exact found.first
  · intro clear
    exact found.unique ⟨prefix_drop_lead lead text, clear⟩

/-- A text does not begin inside a lead without its first character. -/
theorem not_prefix_of_head {lead text : Text} (filled : text ≠ [])
    (absent : ∀ c ∈ text.head?, c ∉ lead) : ∀ j < lead.length, ¬ text <+: (lead ++ text).drop j := by
  intro j below starts
  obtain ⟨c, rest, rfl⟩ := List.exists_cons_of_ne_nil filled
  rw [List.drop_append_of_le_length (Nat.le_of_lt below), List.drop_eq_getElem_cons below] at starts
  have same : c = lead[j] := (List.cons_prefix_cons.mp starts).1
  exact absent c rfl (same ▸ List.getElem_mem below)

/-- How often a line ends in a text, with CR LF, CR or LF. -/
def lineEnds : Text → Nat
  | [] => 0
  | '\r' :: '\n' :: rest => lineEnds rest + 1
  | c :: rest => (if c = '\r' ∨ c = '\n' then 1 else 0) + lineEnds rest

def lineCount (t : Text) : Nat := lineEnds t + 1

theorem length_lines_cons (c : Char) (t : Text) :
    (lines (c :: t)).length = (if c = '\n' then 1 else 0) + (lines t).length := by
  by_cases newline : c = '\n'
  · subst newline
    rw [lines_newline, List.length_cons, if_pos rfl, Nat.add_comm]
  · obtain ⟨line, more, shape⟩ := List.exists_cons_of_ne_nil (lines_ne_nil t)
    rw [if_neg newline, lines_cons newline, shape]
    simp

theorem length_lines_plainNewlines (t : Text) : (lines (plainNewlines t)).length = lineCount t := by
  unfold lineCount
  fun_induction lineEnds t with
  | case1 => rfl
  | case2 rest ih =>
      rw [plainNewlines, length_lines_cons, ih, if_pos rfl, Nat.add_comm]
  | case3 c rest apart ih =>
      rw [plainNewlines.eq_3 c rest apart, length_lines_cons, ih]
      by_cases carriage : c = '\r'
      · simp [carriage, Nat.add_assoc]
      · simp [carriage, Nat.add_assoc]

end Text

/-! ## The range of one block -/

/-- A range that begins in one of some lines and does not end before it begins. -/
structure Range.IsWithin (range : Range) (lines : Nat) : Prop where
  firstLine : 1 ≤ range.start.line
  lastLine : range.start.line ≤ lines
  column : 1 ≤ range.start.column
  ordered : range.start.line < range.stop.line ∨
    range.start.line = range.stop.line ∧ range.start.column ≤ range.stop.column

namespace Element

/-- How many characters of its first line stand before a block. -/
def startOffset (line : Text) : Option Text → Nat
  | none | some [] => line.length - (Text.trimLeft line).length
  | some (c :: rest) =>
    (Text.offsetOf? ((Text.lines (c :: rest)).headD []) line).getD
      (line.length - (Text.trimLeft line).length)

theorem rangeOf_line {source : List Text} {first : Nat} {line : Text}
    (found : source[first]? = some line) (stop : Nat) (inlines : Option Text) :
    rangeOf source (some (first, stop)) inlines = some
      { start := { line := first + 1, column := startOffset line inlines + 1 }
        stop :=
          { line := max (stop - 1) first + 1
            column := ((source[max (stop - 1) first]?).getD []).length + 1 } } := by
  simp only [rangeOf, found]
  rcases inlines with _ | ⟨⟩ | ⟨c, rest⟩ <;> rfl

/-- A block has a range exactly if it has lines and the first one is in the source. -/
theorem rangeOf_isSome_iff {source : List Text} {span : Option (Nat × Nat)} {inlines : Option Text} :
    (rangeOf source span inlines).isSome = true ↔
      ∃ first stop, span = some (first, stop) ∧ first < source.length := by
  constructor
  · intro ranged
    cases span with
    | none => cases ranged
    | some lines =>
        obtain ⟨first, stop⟩ := lines
        refine ⟨first, stop, rfl, Nat.lt_of_not_le fun outside => ?_⟩
        simp [rangeOf, List.getElem?_eq_none outside] at ranged
  · rintro ⟨first, stop, rfl, inside⟩
    rw [rangeOf_line (List.getElem?_eq_getElem inside)]
    rfl

theorem startOffset_le (line : Text) (inlines : Option Text) : startOffset line inlines ≤ line.length := by
  unfold startOffset
  split
  · exact Nat.sub_le _ _
  · exact Nat.sub_le _ _
  · next c rest =>
      cases found : Text.offsetOf? ((Text.lines (c :: rest)).headD []) line with
      | none => exact Nat.sub_le _ _
      | some offset => exact Text.offsetOf?_le found

/-- The first line of the inlines is looked for in the line of the source; if it is not there, the
indentation counts. -/
theorem startOffset_text {content text : Text} (begins : (Text.lines content).head? = some text)
    (filled : text ≠ []) (line : Text) :
    startOffset line (some content) =
      (Text.offsetOf? text line).getD (line.length - (Text.trimLeft line).length) := by
  cases content with
  | nil =>
      cases begins
      exact absurd rfl filled
  | cons c rest =>
      rw [startOffset, List.headD_eq_head?_getD, begins]
      rfl

/-- A text is found behind a lead, or before that if it occurs there. -/
theorem firstAt_startOffset {content text : Text} (begins : (Text.lines content).head? = some text)
    (filled : text ≠ []) (lead : Text) :
    Text.FirstAt text (lead ++ text) (startOffset (lead ++ text) (some content)) := by
  obtain ⟨offset, found⟩ := Text.exists_offsetOf? (Text.prefix_drop_lead lead text)
  rw [startOffset_text begins filled, found]
  exact Text.firstAt_offsetOf? found

/-- The last line is not before the first, and in the first line the start is not behind the end. -/
theorem rangeOf_isWithin {source : List Text} {span : Option (Nat × Nat)} {inlines : Option Text}
    {range : Range} (ranged : rangeOf source span inlines = some range) :
    range.IsWithin source.length := by
  obtain ⟨first, stop, rfl, inside⟩ := rangeOf_isSome_iff.mp (Option.isSome_of_mem ranged)
  rw [rangeOf_line (List.getElem?_eq_getElem inside)] at ranged
  cases ranged
  refine ⟨?_, ?_, ?_, ?_⟩ <;> simp only
  · omega
  · omega
  · omega
  · rcases Nat.lt_or_ge first (stop - 1) with longer | short
    · -- the block ends in a later line, which may lie outside the source
      left
      omega
    · right
      have bound := startOffset_le source[first] inlines
      rw [Nat.max_eq_right short, List.getElem?_eq_getElem inside, Option.getD_some]
      omega

end Element

/-! ## Blocks at their places -/

/-- Whether the children of a block are blocks that are converted with it. -/
def Kind.holdsBlocks : Kind → Bool
  | .paragraph | .heading | .fence | .codeBlock | .htmlBlock | .rule => false
  | _ => true

namespace Element

/-- The block at the end of a way, which leads through blocks only. -/
def blockAt? : Element → Way → Option Element
  | element, [] => some element
  | element, i :: way =>
    if element.kind.holdsBlocks then (element.children[i]?).bind fun child => child.blockAt? way
    else none

/-- The block at the end of a way from the root of a document. The root itself is none. -/
def documentBlock? (root : Element) : Way → Option Element
  | [] => none
  | i :: way => (root.children[i]?).bind fun child => child.blockAt? way

/-- The text of the inlines of a paragraph or heading. -/
def inlineText? (element : Element) : Option Text :=
  if element.kind.holdsInlines then element.children.head?.map Element.content else none

/-- What a paragraph is read from: its lines and its text. -/
theorem exists_paragraph {root : Element} {way : Way} {span : Nat × Nat} {text : Text}
    (shape : (root.documentBlock? way).map (fun block => (block.kind, block.span, block.inlineText?)) =
      some (.paragraph, some span, some text)) :
    ∃ block inner, root.documentBlock? way = some block ∧ block.kind = .paragraph ∧
      block.span = some span ∧ block.children.head? = some inner ∧ inner.content = text := by
  obtain ⟨block, found, parts⟩ := Option.map_eq_some_iff.mp shape
  obtain ⟨kind, more⟩ := Prod.mk.inj parts
  obtain ⟨lines, inside⟩ := Prod.mk.inj more
  rw [inlineText?, kind] at inside
  obtain ⟨inner, child, content⟩ := Option.map_eq_some_iff.mp inside
  exact ⟨block, inner, found, kind, lines, child, content⟩

/-- What a block is converted to: its kind stays, its range is that of its lines, and its children are
converted as blocks or as inlines. -/
structure Converts (source : List Text) (element : Element) (node : Node) : Prop where
  kind : node.kind = element.kind
  range : node.range = rangeOf source element.span element.inlineText?
  blocks : element.kind.holdsBlocks = true → toBlocks source element.children = .ok node.children
  inlines : element.kind.holdsBlocks = false → ∃ inlines, node.children = toInlines inlines

/-- A block of inlines is converted with the inlines of its one child. -/
theorem converts_ofInlines (source : List Text) {element : Element} (traits : Fields)
    (inlines : element.kind.holdsInlines = true) :
    Converts source element
      (ofInlines source element.kind traits element.children element.markup element.span) := by
  have blocks : element.kind.holdsBlocks = false := by
    revert inlines
    cases element.kind <;> simp [Kind.holdsInlines, Kind.holdsBlocks]
  cases children : element.children with
  | nil =>
      refine ⟨rfl, ?_, by simp [blocks], fun _ => ⟨[], rfl⟩⟩
      simp [ofInlines, inlineText?, inlines, children]
  | cons inner others =>
      refine ⟨rfl, ?_, by simp [blocks], fun _ => ⟨inner.children, rfl⟩⟩
      simp [ofInlines, inlineText?, inlines, children]

/-- One case for each kind of block; those that read a number may fail before they give a node. -/
theorem toBlock_converts {source : List Text} {element : Element} {node : Node}
    (converted : toBlock source element = .ok node) : Converts source element node := by
  obtain ⟨kind, tag, children, content, markup, info, attrs, traits, span, hidden⟩ := element
  cases kind with
  | paragraph =>
      cases converted
      exact converts_ofInlines source [] rfl
  | heading =>
      rw [toBlock] at converted
      obtain ⟨n, -, made⟩ := exists_of_bind_eq_ok converted
      cases made
      exact converts_ofInlines source _ rfl
  | fence | codeBlock | htmlBlock | rule =>
      cases converted
      exact ⟨rfl, rfl, by simp [Kind.holdsBlocks], fun _ => ⟨[], rfl⟩⟩
  | orderedList =>
      rw [toBlock] at converted
      obtain ⟨n, -, rest⟩ := exists_of_bind_eq_ok converted
      obtain ⟨nodes, inside, made⟩ := exists_of_bind_eq_ok rest
      cases made
      exact ⟨rfl, rfl, fun _ => inside, by simp [Kind.holdsBlocks]⟩
  | _ =>
      simp only [toBlock] at converted
      obtain ⟨nodes, inside, made⟩ := exists_of_bind_eq_ok converted
      cases made
      exact ⟨rfl, rfl, fun _ => inside, by simp [Kind.holdsBlocks]⟩

/-- Blocks are converted one by one. -/
theorem toBlocks_getElem? {source : List Text} {elements : List Element} {nodes : List Node}
    (converted : toBlocks source elements = .ok nodes) (i : Nat) :
    Option.Rel (fun element node => toBlock source element = .ok node) elements[i]? nodes[i]? := by
  induction elements generalizing nodes i with
  | nil =>
      cases converted
      exact .none
  | cons element elements ih =>
      rw [toBlocks] at converted
      obtain ⟨node, one, rest⟩ := exists_of_bind_eq_ok converted
      obtain ⟨others, more, made⟩ := exists_of_bind_eq_ok rest
      cases made
      cases i with
      | zero => exact .some one
      | succ i => exact ih more i

theorem exists_node {source : List Text} {elements : List Element} {nodes : List Node} {i : Nat}
    {element : Element} (converted : toBlocks source elements = .ok nodes)
    (listed : elements[i]? = some element) :
    ∃ node, nodes[i]? = some node ∧ toBlock source element = .ok node := by
  have each := toBlocks_getElem? converted i
  rw [listed] at each
  generalize nodes[i]? = found at each ⊢
  cases each with
  | some one => exact ⟨_, rfl, one⟩

theorem exists_element {source : List Text} {elements : List Element} {nodes : List Node} {i : Nat}
    {node : Node} (converted : toBlocks source elements = .ok nodes)
    (listed : nodes[i]? = some node) :
    ∃ element, elements[i]? = some element ∧ toBlock source element = .ok node := by
  have each := toBlocks_getElem? converted i
  rw [listed] at each
  generalize elements[i]? = found at each ⊢
  cases each with
  | some one => exact ⟨_, rfl, one⟩

theorem toInlines_eq (elements : List Element) : toInlines elements = elements.map toInline := by
  induction elements with
  | nil => rfl
  | cons element elements ih => rw [toInlines, ih, List.map_cons]

/-- Inlines have no range, however deep they are nested. -/
theorem range_of_inline {way : Way} {element : Element} {node : Node}
    (found : element.toInline.at? way = some node) : node.range = none := by
  induction way generalizing element with
  | nil =>
      cases found
      obtain ⟨⟩ := element
      rw [toInline]
  | cons i way ih =>
      obtain ⟨child, listed, inside⟩ := Option.bind_eq_some_iff.mp found
      obtain ⟨kind, tag, children, content, markup, info, attrs, traits, span, hidden⟩ := element
      rw [toInline, toInlines_eq, List.getElem?_map, Option.map_eq_some_iff] at listed
      obtain ⟨inner, -, rfl⟩ := listed
      exact ih inside

/-- What a block is converted to stands at the place of the block. -/
theorem at?_of_blockAt? {source : List Text} {way : Way} {element block : Element} {node : Node}
    (converted : toBlock source element = .ok node) (found : element.blockAt? way = some block) :
    ∃ copy, node.at? way = some copy ∧ Converts source block copy := by
  induction way generalizing element node with
  | nil =>
      cases found
      exact ⟨node, rfl, toBlock_converts converted⟩
  | cons i way ih =>
      unfold blockAt? at found
      split at found
      · next holds =>
          obtain ⟨child, listed, inside⟩ := Option.bind_eq_some_iff.mp found
          obtain ⟨below, there, one⟩ := exists_node ((toBlock_converts converted).blocks holds) listed
          obtain ⟨copy, place, converts⟩ := ih one inside
          exact ⟨copy, Option.bind_eq_some_iff.mpr ⟨below, there, place⟩, converts⟩
      · cases found

/-- What has a range is a block. -/
theorem blockAt?_of_at? {source : List Text} {way : Way} {element : Element} {node copy : Node}
    (converted : toBlock source element = .ok node) (found : node.at? way = some copy)
    (ranged : copy.range.isSome = true) :
    ∃ block, element.blockAt? way = some block ∧ Converts source block copy := by
  induction way generalizing element node with
  | nil =>
      cases found
      exact ⟨element, rfl, toBlock_converts converted⟩
  | cons i way ih =>
      obtain ⟨below, there, inside⟩ := Option.bind_eq_some_iff.mp found
      have converts := toBlock_converts converted
      cases holds : element.kind.holdsBlocks with
      | true =>
          obtain ⟨child, listed, one⟩ := exists_element (converts.blocks holds) there
          obtain ⟨block, place, same⟩ := ih one inside
          exact ⟨block, by rw [blockAt?, if_pos holds, listed]; exact place, same⟩
      | false =>
          obtain ⟨inlines, children⟩ := converts.inlines holds
          rw [children, toInlines_eq, List.getElem?_map, Option.map_eq_some_iff] at there
          obtain ⟨inner, -, rfl⟩ := there
          rw [range_of_inline inside] at ranged
          cases ranged

end Element

/-! ## Documents -/

namespace Node

/-- The lines of a source, as ranges count them. -/
def sourceLines (source : Text) : List Text := Text.lines (Text.plainNewlines source)

section Documents

variable {root : Element} {source : Text} {document : Node}

theorem ofElement_eq_ok (converted : ofElement root source = .ok document) :
    ∃ blocks, Element.toBlocks (sourceLines source) root.children = .ok blocks ∧
      document = Node.document blocks := by
  obtain ⟨blocks, each, made⟩ := exists_of_bind_eq_ok converted
  cases made
  exact ⟨blocks, each, rfl⟩

/-- Blocks are converted together with the blocks inside them, so the way leads on to what the block became. -/
theorem at?_of_documentBlock? (converted : ofElement root source = .ok document) {way : Way}
    {block : Element} (found : root.documentBlock? way = some block) :
    ∃ node, document.at? way = some node ∧ Element.Converts (sourceLines source) block node := by
  obtain ⟨blocks, each, rfl⟩ := ofElement_eq_ok converted
  cases way with
  | nil => cases found
  | cons i way =>
      obtain ⟨child, listed, inside⟩ := Option.bind_eq_some_iff.mp found
      obtain ⟨top, there, one⟩ := Element.exists_node each listed
      obtain ⟨node, place, converts⟩ := Element.at?_of_blockAt? one inside
      exact ⟨node, Option.bind_eq_some_iff.mpr ⟨top, there, place⟩, converts⟩

/-- Inlines have no range, so a node with one is a block, and the way to it leads through blocks. -/
theorem documentBlock?_of_at? (converted : ofElement root source = .ok document) {way : Way}
    {node : Node} (found : document.at? way = some node) (ranged : node.range.isSome = true) :
    ∃ block, root.documentBlock? way = some block ∧
      Element.Converts (sourceLines source) block node := by
  obtain ⟨blocks, each, rfl⟩ := ofElement_eq_ok converted
  cases way with
  | nil =>
      cases found
      cases ranged
  | cons i way =>
      obtain ⟨top, there, inside⟩ := Option.bind_eq_some_iff.mp found
      obtain ⟨child, listed, one⟩ := Element.exists_element each there
      obtain ⟨block, place, converts⟩ := Element.blockAt?_of_at? one inside ranged
      exact ⟨block, Option.bind_eq_some_iff.mpr ⟨child, listed, place⟩, converts⟩

/-- **Ranges lie within the source.** Every range of a document begins in a line of the source and does
not end before it begins. Only blocks have ranges, and a block has one exactly if it was read from lines
of which the first lies in the source. -/
theorem ofElement_ranges (converted : ofElement root source = .ok document) :
    (∀ way node range, document.at? way = some node → node.range = some range →
      range.IsWithin (Text.lineCount source) ∧ (root.documentBlock? way).isSome = true) ∧
    ∀ way block, root.documentBlock? way = some block →
      ∃ node, document.at? way = some node ∧ node.kind = block.kind ∧
        (node.range.isSome = true ↔
          ∃ first stop, block.span = some (first, stop) ∧ first < Text.lineCount source) := by
  rw [← Text.length_lines_plainNewlines]
  constructor
  · intro way node range found ranged
    obtain ⟨block, place, converts⟩ :=
      documentBlock?_of_at? converted found (Option.isSome_of_mem ranged)
    rw [converts.range] at ranged
    exact ⟨Element.rangeOf_isWithin ranged, Option.isSome_of_mem place⟩
  · intro way block place
    obtain ⟨node, found, converts⟩ := at?_of_documentBlock? converted place
    refine ⟨node, found, converts.kind, ?_⟩
    rw [converts.range]
    exact Element.rangeOf_isSome_iff

end Documents

/-- Blocks with lines in the wrong order, behind the end of the source, and without lines. -/
def skewedRoot : Element :=
  { kind := .root
    children :=
      [{ kind := .quote, span := some (1, 0)
         children :=
          [{ kind := .paragraph, span := some (2, 9), children := [{ kind := .text, content := ['c'] }] }] },
       { kind := .fence, span := some (3, 4) },
       { kind := .rule }] }

/-- A source of three lines, each with another end. -/
def skewedSource : Text := "a\r\n> b\rc".toList

/-- A range may end behind the source, but it begins in it; a block that begins behind the source has none.
-/
theorem ofElement_ranges_skewedRoot :
    ∃ document, ofElement skewedRoot skewedSource = .ok document ∧ Text.lineCount skewedSource = 3 ∧
      (∃ node range, document.at? [0, 0] = some node ∧ node.range = some range ∧
        range = { start := ⟨3, 1⟩, stop := ⟨9, 1⟩ } ∧ range.IsWithin 3) ∧
      ∃ node, document.at? [1] = some node ∧ node.range = none := by
  obtain ⟨document, converted⟩ : ∃ document, ofElement skewedRoot skewedSource = .ok document :=
    ⟨_, rfl⟩
  have count : Text.lineCount skewedSource = 3 := by decide
  obtain ⟨within, blocks⟩ := ofElement_ranges converted
  obtain ⟨inner, found, -, -⟩ := blocks [0, 0] _ rfl
  obtain ⟨fence, other, -, outside⟩ := blocks [1] _ rfl
  have place : inner.range = some { start := ⟨3, 1⟩, stop := ⟨9, 1⟩ } := by
    cases converted
    cases found
    rfl
  refine ⟨document, converted, count, ⟨inner, _, found, place, rfl, ?_⟩, fence, other, ?_⟩
  · exact count ▸ (within [0, 0] inner _ found place).1
  · apply Option.not_isSome_iff_eq_none.mp
    rw [outside, count]
    rintro ⟨first, stop, span, inside⟩
    cases span
    exact absurd inside (by decide)

/-! ## Where a paragraph begins -/

/-- **Where the range of a paragraph begins.** Let the line from which a paragraph was read consist of a
lead and the first line of its text. The range begins where that text first occurs in the line. This is
behind the lead exactly if the text does not occur before, as when the lead is an indentation or does not
hold the first character of the text. -/
theorem ofElement_startColumn {root block inner : Element} {source lead text : Text} {document : Node}
    {way : Way} {first stop : Nat} (converted : ofElement root source = .ok document)
    (found : root.documentBlock? way = some block) (kind : block.kind = .paragraph)
    (span : block.span = some (first, stop)) (child : block.children.head? = some inner)
    (line : (sourceLines source)[first]? = some (lead ++ text))
    (begins : (Text.lines inner.content).head? = some text) (filled : text ≠ [])
    (trimmed : Text.trim text = text) :
    ∃ node range offset, document.at? way = some node ∧ node.range = some range ∧
      range.start = ⟨first + 1, (offset : Nat) + 1⟩ ∧ Text.FirstAt text (lead ++ text) offset ∧
      (range.start.column = lead.length + 1 ↔ ∀ j < lead.length, ¬ text <+: (lead ++ text).drop j) ∧
      (lead.all isBlank = true ∨ (∀ c ∈ text.head?, c ∉ lead) →
        range.start.column = lead.length + 1) := by
  obtain ⟨node, place, converts⟩ := at?_of_documentBlock? converted found
  have firstAt := Element.firstAt_startOffset begins filled lead
  have range := converts.range
  rw [span, Element.inlineText?, kind, child, Element.rangeOf_line line] at range
  have column : (Element.startOffset (lead ++ text) (some inner.content) : Int) + 1 = lead.length + 1 ↔
      ∀ j < lead.length, ¬ text <+: (lead ++ text).drop j := by
    rw [← Text.firstAt_length_iff firstAt]
    omega
  refine ⟨node, _, _, place, range, rfl, firstAt, column, ?_⟩
  intro clear
  apply column.mpr
  apply Text.not_prefix_of_head filled
  rcases clear with blank | absent
  · intro c head listed
    have solid := (Text.trim_eq_self_iff.mp trimmed).1
    rw [head] at solid
    rw [List.all_eq_true] at blank
    exact absurd (blank c listed) (by simpa using solid)
  · exact absent

/-- A description in an item in a quote in an item. -/
def nestedText : Text := "- a\n\n  > 1. \\param x one\n  >    two".toList

set_option maxRecDepth 10000 in
/-- The marks of all containers and the word of the command stand before the first character. -/
theorem ofElement_startColumn_nestedText :
    ∃ document node range, Markdown.read {} nestedText = .ok document ∧
      (sourceLines nestedText)[2]? = some ("  > 1. \\param x ".toList ++ "one".toList) ∧
      document.at? [0, 0, 1, 0, 0, 0, 0] = some node ∧ node.range = some range ∧
      range.start.column = 17 := by
  obtain ⟨document, read⟩ := Markdown.exists_read {} nestedText
  obtain ⟨block, inner, found, kind, span, child, content⟩ :=
    @Element.exists_paragraph (Markdown.readRoot {} nestedText) [0, 0, 1, 0, 0, 0, 0] (2, 4)
      "one\ntwo".toList (by decide +kernel)
  have line : (sourceLines nestedText)[2]? = some ("  > 1. \\param x ".toList ++ "one".toList) := by
    decide
  have begins : (Text.lines inner.content).head? = some "one".toList := by
    rw [content]
    decide
  have absent : ∀ c ∈ "one".toList.head?, c ∉ "  > 1. \\param x ".toList := by
    intro c head
    obtain rfl : 'o' = c := Option.some.inj head
    decide
  obtain ⟨node, range, offset, place, ranged, -, -, -, clear⟩ :=
    ofElement_startColumn read found kind span child line begins (by decide) (by decide)
  exact ⟨document, node, range, read, line, place, ranged, clear (.inr absent)⟩

set_option maxRecDepth 10000 in
/-- Not every paragraph begins behind its marks: here the text occurs in the number of its item. -/
theorem startColumn_numberedItem :
    ∃ document block inner node range, Markdown.read {} "1. 1".toList = .ok document ∧
      (Markdown.readRoot {} "1. 1".toList).documentBlock? [0, 0, 0] = some block ∧
      block.kind = .paragraph ∧ block.span = some (0, 1) ∧ block.children.head? = some inner ∧
      inner.content = ['1'] ∧ (sourceLines "1. 1".toList)[0]? = some ("1. ".toList ++ ['1']) ∧
      document.at? [0, 0, 0] = some node ∧ node.range = some range ∧
      range.start.column = 1 ∧ range.start.column ≠ "1. ".toList.length + 1 := by
  obtain ⟨document, read⟩ := Markdown.exists_read {} "1. 1".toList
  obtain ⟨block, inner, found, kind, span, child, content⟩ :=
    @Element.exists_paragraph (Markdown.readRoot {} "1. 1".toList) [0, 0, 0] (0, 1) ['1'] (by decide +kernel)
  obtain ⟨node, place, converts⟩ := at?_of_documentBlock? read found
  have range : node.range = some { start := ⟨1, 1⟩, stop := ⟨1, 5⟩ } := by
    rw [converts.range, span, Element.inlineText?, kind, child]
    show Element.rangeOf _ _ (some inner.content) = _
    rw [content]
    decide
  exact ⟨document, block, inner, node, _, read, found, kind, span, child, content, by decide, place,
    range, rfl, by decide⟩

end Node

end DocComment
