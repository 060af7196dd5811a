/- The layout of containers. Rendering puts a lead before every line of what a container holds. Leads keep the
lines apart, and removing them gives the text back (`unindent?_indentFrom`). So in the text of a list each item
has lines of its own: the first one follows the marker of the item, the others are indented by its width, and
what is left without them is the text of the item (`layout_confines`). An empty line gets no trailing blanks;
so an item whose text begins with an empty line does not begin with its marker, but with the marker less its
trailing blanks (`layout_bareList`). -/
import DocComment.Proofs.Contribution
import DocComment.Proofs.RenderedBraces

namespace DocComment

set_option autoImplicit false

namespace Text

/-! ## Leads removed again -/

/-- What follows a lead. The lead without its trailing blanks stands before an empty line. -/
def unlead? (lead row : Text) : Option Text :=
  if row = trimRight lead then some [] else after? lead row

/-- What follows the leads of several lines, where the first one has a lead of its own. -/
def unleadFrom? (first lead : Text) : List Text → Option (List Text)
  | [] => some []
  | row :: rows => do
    let line ← unlead? first row
    let below ← rows.mapM (unlead? lead)
    some (line :: below)

/-- A text without the leads of its lines. -/
def unindent? (first lead t : Text) : Option Text := (unleadFrom? first lead (lines t)).map unlines

/-- An empty line follows the lead without its trailing blanks, and is told by that. -/
theorem unlead?_leadLine (lead line : Text) : unlead? lead (leadLine lead line) = some line := by
  by_cases empty : line = []
  · rw [empty]
    exact if_pos rfl
  · have longer : lead ++ line ≠ trimRight lead := by
      intro same
      have short : (trimRight lead).length ≤ lead.length := (dropRightWhile_sublist _ _).length_le
      have long : 0 < line.length := List.length_pos_iff.mpr empty
      rw [← same, List.length_append] at short
      omega
    rw [leadLine_of_ne empty, unlead?, if_neg longer]
    exact after?_eq_some_iff.mpr rfl

/-- Line by line, the leads that were put before a text can be taken away again. -/
theorem unleadFrom?_leadFrom (first lead : Text) (rows : List Text) :
    unleadFrom? first lead (leadFrom first lead rows) = some rows := by
  cases rows with
  | nil => rfl
  | cons line rest =>
      have below : (rest.map (leadLine lead)).mapM (unlead? lead) = some rest := by
        induction rest with
        | nil => rfl
        | cons next rest ih => simp [unlead?_leadLine, ih]
      rw [leadFrom, unleadFrom?, unlead?_leadLine, below]
      rfl

/-- **Removing the leads of its lines gives an indented text back.** -/
theorem unindent?_indentFrom {first lead : Text} (freeFirst : '\n' ∉ first) (free : '\n' ∉ lead)
    (t : Text) : unindent? first lead (indentFrom first lead t) = some t := by
  rw [unindent?, lines_indentFrom freeFirst free, unleadFrom?_leadFrom, Option.map_some, unlines_lines]

theorem indentAll_eq (lead t : Text) : indentAll lead t = indentFrom lead lead t := by
  unfold indentAll indentFrom
  cases split : lines t with
  | nil => exact absurd split (lines_ne_nil t)
  | cons line rest => rfl

end Text

/-! ## The lines of an item -/

/-- A group of lines in which a text hangs behind a marker: the first line follows the marker, the others are
empty or follow as many spaces, and without these the text is left. If the text begins with an empty line,
the marker stands alone on the first line and loses its trailing blanks. -/
structure Hangs (marker t : Text) (group : List Text) : Prop where
  first : ∃ row, group.head? = some row ∧
    if (Text.lines t).head? = some [] then row = Text.trimRight marker else marker <+: row
  others : ∀ row ∈ group.tail, row = [] ∨ List.replicate marker.length ' ' <+: row
  text : (Text.unleadFrom? marker (List.replicate marker.length ' ') group).map Text.unlines = some t

/-- The lines of the text are led one by one, the first by the marker and the others by as many spaces. -/
theorem hangs_item {marker : Text} (free : '\n' ∉ marker) (t : Text) :
    Hangs marker t (Text.lines (Render.item marker t)) := by
  obtain ⟨line, rest, split⟩ := List.exists_cons_of_ne_nil (Text.lines_ne_nil t)
  rw [Render.item, Text.lines_indentFrom free (by simp)]
  refine ⟨⟨Text.leadLine marker line, by rw [split]; rfl, ?_⟩, ?_, ?_⟩
  · rw [split, List.head?_cons]
    by_cases empty : line = []
    · rw [empty, if_pos rfl]
      rfl
    · rw [if_neg (by simpa using empty), Text.leadLine_of_ne empty]
      exact List.prefix_append marker line
  · intro row member
    rw [split, Text.leadFrom, List.tail_cons] at member
    obtain ⟨old, -, rfl⟩ := List.mem_map.mp member
    by_cases empty : old = []
    · rw [empty]
      exact .inl (Text.leadLine_spaces_nil _)
    · rw [Text.leadLine_of_ne empty]
      exact .inr (List.prefix_append _ _)
  · rw [Text.unleadFrom?_leadFrom, Option.map_some, Text.unlines_lines]

/-! ## The groups of a list -/

namespace Node

/-- The marker of an item in a list: a hyphen, or its number and the sign behind it. -/
def markerAt (list : Node) (i : Nat) (item : Node) : Text :=
  if list.kind = .bulletList then ['-', ' ']
  else Text.ofInt (list.firstNumber + i) ++ (if item.markup = [] then ['.'] else item.markup) ++ [' ']

/-- The text of an item in a list: its blocks, in a loose list with empty lines between them. -/
def itemText (list item : Node) : Text :=
  Text.joinWith (if list.isTight then ['\n'] else ['\n', '\n']) (item.children.map render)

variable {list : Node}

theorem marker_eq_markerAt (isList : list.kind.isList = true) (i : Nat) (item : Node) :
    Render.marker list.kind (list.firstNumber + i) item.markup = list.markerAt i item := by
  unfold Render.marker markerAt
  cases kind : list.kind <;> simp_all [Kind.isList]

theorem newline_not_mem_markerAt (isList : list.kind.isList = true) (i : Nat) {item : Node}
    (free : list.kind = .orderedList → '\n' ∉ item.markup) : '\n' ∉ list.markerAt i item := by
  rw [← marker_eq_markerAt isList]
  exact Markdown.newline_not_mem_marker _ _ free

/-- Items are rendered one by one, each behind a marker with its own number. -/
theorem items_eq_mapIdx (kind : Kind) (tight : Bool) (number : Int) (items : List Node) :
    Render.items kind tight number (renderItems items) =
      items.mapIdx fun i item =>
        Render.item (Render.marker kind (number + i) item.markup)
          (Text.joinWith (Render.gap tight) (item.children.map render)) := by
  induction items generalizing number with
  | nil => rfl
  | cons item items ih =>
      have start : number + (0 : Nat) = number := Int.add_zero number
      have shift : ∀ i : Nat, number + 1 + i = number + (i + 1 : Nat) := fun i => by omega
      rw [renderItems_eq, List.map_cons, ← renderItems_eq, Render.items, ih, List.mapIdx_cons, renderAll_eq]
      simp only [start, shift]

def groups (list : Node) : List (List Text) :=
  (list.children.mapIdx fun i item => Render.item (list.markerAt i item) (list.itemText item)).map Text.lines

theorem render_eq_joinWith (isList : list.kind.isList = true) :
    list.render = Text.joinWith (Render.gap list.isTight) (list.children.mapIdx fun i item =>
      Render.item (list.markerAt i item) (list.itemText item)) := by
  rw [render_list isList, Render.assembleList, items_eq_mapIdx]
  simp only [marker_eq_markerAt isList]
  rfl

/-- The lines of a list are those of its items, one group below the other. -/
theorem lines_render_list (isList : list.kind.isList = true) (filled : list.children ≠ []) :
    Text.lines list.render = Text.stack (!list.isTight) list.groups := by
  rw [render_eq_joinWith isList, Text.lines_joinWith_gap _ (by simpa using filled)]
  rfl

theorem render_eq_unlines (isList : list.kind.isList = true) :
    list.render = Text.unlines (Text.stack (!list.isTight) list.groups) := by
  by_cases empty : list.children = []
  · rw [render_eq_joinWith isList, groups, empty]
    rfl
  · rw [← lines_render_list isList empty, Text.unlines_lines]

theorem hangs_of_groups (isList : list.kind.isList = true) {i : Nat} {item : Node} {group : List Text}
    (here : list.children[i]? = some item) (free : list.kind = .orderedList → '\n' ∉ item.markup)
    (lines : list.groups[i]? = some group) : Hangs (list.markerAt i item) (list.itemText item) group := by
  rw [groups, List.getElem?_map, List.getElem?_mapIdx, here, Option.map_some, Option.map_some,
    Option.some.injEq] at lines
  rw [← lines]
  exact hangs_item (newline_not_mem_markerAt isList i free) _

end Node

/-- **Containers confine what they hold and lose nothing of it.** Leads without newlines keep the number of
lines, and removing them gives the text back. The text of a list is one group of lines for each item, in
order, with an empty line between two groups exactly if the list is loose; in each group the text of the item
hangs behind its marker. -/
theorem layout_confines :
    (∀ first lead t : Text, '\n' ∉ first → '\n' ∉ lead →
      (Text.lines (Text.indentFrom first lead t)).length = (Text.lines t).length ∧
      Text.unindent? first lead (Text.indentFrom first lead t) = some t ∧
      (Text.lines (Text.indentAll lead t)).length = (Text.lines t).length ∧
      Text.unindent? lead lead (Text.indentAll lead t) = some t) ∧
    ∀ list : Node, list.kind.isList = true →
      (list.kind = .orderedList → ∀ item ∈ list.children, '\n' ∉ item.markup) →
      ∃ groups : List (List Text), groups.length = list.children.length ∧
        list.render = Text.unlines (Text.stack (!list.isTight) groups) ∧
        (list.children ≠ [] → Text.lines list.render = Text.stack (!list.isTight) groups) ∧
        ∀ (i : Nat) (item : Node) (group : List Text), list.children[i]? = some item →
          groups[i]? = some group → Hangs (list.markerAt i item) (list.itemText item) group := by
  constructor
  · intro first lead t freeFirst free
    rw [Text.indentAll_eq, Text.lines_indentFrom freeFirst free, Text.lines_indentFrom free free,
      Markdown.length_leadFrom, Markdown.length_leadFrom]
    exact ⟨rfl, Text.unindent?_indentFrom freeFirst free t, rfl, Text.unindent?_indentFrom free free t⟩
  · intro list isList free
    refine ⟨list.groups, by simp [Node.groups], Node.render_eq_unlines isList,
      Node.lines_render_list isList, ?_⟩
    intro i item group here lines
    exact Node.hangs_of_groups isList here
      (fun ordered => free ordered item (List.mem_of_getElem? here)) lines

/-- A loose list that counts from nine to ten. The text of its first item has an empty line and a list in it,
its second item begins with an empty line. -/
def growingList : Node :=
  { kind := .orderedList
    attrs := [("start".toList, .int 9)]
    traits := [("tight".toList, .bool false)]
    children :=
      [{ kind := .listItem
         markup := [')']
         children := [Node.paragraph [Node.plain "a\n\nb".toList] none,
           bullets [{ kind := .listItem, children := [Node.paragraph [Node.plain ['c']] none] }]] },
       { kind := .listItem, children := [Node.paragraph [Node.plain "\nd".toList] none] }] }

/-- The second marker is wider by one, and so is the indentation below it. -/
theorem layout_confines_growingList :
    growingList.kind.isList = true ∧ (∀ item ∈ growingList.children, '\n' ∉ item.markup) ∧
      ∃ first second, growingList.render = Text.unlines (first ++ [[]] ++ second) ∧
        Hangs "9) ".toList "a\n\nb\n\n- c".toList first ∧ Hangs "10. ".toList "\nd".toList second := by
  have free : ∀ item ∈ growingList.children, '\n' ∉ item.markup := by
    intro item member
    rcases List.mem_cons.mp member with rfl | member
    · decide
    · rw [List.mem_singleton.mp member]
      decide
  refine ⟨rfl, free, ?_⟩
  obtain ⟨groups, count, rendered, -, each⟩ := layout_confines.2 growingList rfl fun _ => free
  obtain ⟨first, second, rfl⟩ := List.length_eq_two.mp count
  refine ⟨first, second, ?_, each 0 _ _ rfl rfl, each 1 _ _ rfl rfl⟩
  rw [rendered, List.append_assoc]
  rfl

def bareList : Node := bullets [{ kind := .listItem }]

/-- Not every item begins with its marker: here the marker stands alone, without its blank. -/
theorem layout_bareList :
    bareList.render = ['-'] ∧
      ¬ ∃ groups : List (List Text), groups.length = bareList.children.length ∧
        Text.lines bareList.render = Text.stack (!bareList.isTight) groups ∧
        ∀ (i : Nat) (item : Node) (group : List Text), bareList.children[i]? = some item →
          groups[i]? = some group → ∃ row, group.head? = some row ∧ bareList.markerAt i item <+: row := by
  refine ⟨by decide, ?_⟩
  rintro ⟨groups, count, stacked, each⟩
  obtain ⟨group, rfl⟩ := List.length_eq_one_iff.mp count
  obtain ⟨row, head, marked⟩ := each 0 _ _ rfl rfl
  have alone : group = [['-']] := stacked.symm
  rw [alone] at head
  obtain rfl : ['-'] = row := Option.some.inj head
  exact absurd marked (by decide)

end DocComment
