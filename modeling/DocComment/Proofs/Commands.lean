/- What becomes of the commands in a document. A command is in the open if the way down to it passes no
paragraph, no heading and no other command. Each of them is turned into one record, wherever it stands:
in a quote, in a directive, in an item, in a list inside an item. There is one exception. A tag is taken
as a whole, and what is inside it is part of its content; a command there makes no record of its own
(`cut_command_iff`), and if the tag is an outline its text is lost as well (`harvest_outlinedCommand`). -/
import DocComment.Proofs.Conservation

namespace DocComment.Harvest

set_option autoImplicit false

/-- A command that neither a paragraph or heading nor another command holds. -/
structure OpenCommand (blocks : List Node) (p : Way) (node : Node) : Prop where
  found : (Node.document blocks).at? p = some node
  isCommand : node.kind.isCommand = true
  clear : ∀ q above, Above q p → (Node.document blocks).at? q = some above →
    above.kind.holdsInlines = false ∧ above.kind.isCommand = false

/-- Whether a way leads into a tag. -/
def InsideTag (blocks : List Node) (p : Way) : Prop := ∃ q, Above q p ∧ TagAt blocks q

/-- What the node at the end of a way adds to the table. -/
def contributionAt (blocks : List Node) (p : Way) : Contribution :=
  match (Node.document blocks).at? p with
  | none => {}
  | some node => Contribution.ofNode node

theorem above_trans {r q p : Way} (first : Above r q) (second : Above q p) : Above r p := by
  refine ⟨first.1.trans second.1, ?_⟩
  rintro rfl
  have shorter := first.length_lt
  have longer := second.length_lt
  omega

/-- A walk that takes nothing but commands passes neither commands nor what holds inlines. -/
theorem clear_of_reach {node : Node} {p : Way} {spot : Place × Node}
    (reached : reach .inner node p = some spot) (q : Way) (above : Node) (isAbove : Above q p)
    (seen : node.at? q = some above) :
    above.kind.holdsInlines = false ∧ above.kind.isCommand = false := by
  induction p generalizing node q with
  | nil => exact absurd isAbove (not_above_nil q)
  | cons i p ih =>
      obtain ⟨untaken, inlines, child, found, onward⟩ := reach_cons_eq_some reached
      rcases (above_cons_iff q i p).1 isAbove with rfl | ⟨r, rfl, deeper⟩
      · cases seen
        exact ⟨inlines, by simpa [isTaken] using untaken⟩
      · exact ih onward r deeper (by simpa [Node.at?, found] using seen)

theorem openCommand_of_reach {blocks : List Node} {p : Way} {place : Place} {node : Node}
    (reached : reach .inner (Node.document blocks) p = some (place, node))
    (isCommand : node.kind.isCommand = true) : OpenCommand blocks p node :=
  ⟨reach_at? reached, isCommand, clear_of_reach reached⟩

/-- **A command in the open is cut out on its own exactly if no tag holds it.** -/
theorem cut_command_iff {blocks : List Node} {p : Way} {node : Node}
    (command : OpenCommand blocks p node) : Cut blocks p ↔ ¬ InsideTag blocks p := by
  have candidate : CommandAt blocks p :=
    ⟨node, command.found, command.isCommand, fun q above isAbove seen =>
      (command.clear q above isAbove seen).1⟩
  rw [Cut]
  constructor
  · rintro ⟨noneAbove, -⟩ ⟨q, isAbove, tag⟩
    -- Nothing above the tag is cut, so the tag itself would be.
    apply noneAbove q isAbove
    rw [Cut]
    exact ⟨fun r above => noneAbove r (above_trans above isAbove), .inr tag⟩
  · intro outside
    refine ⟨fun q isAbove cut => ?_, .inl candidate⟩
    rw [Cut] at cut
    rcases cut.2 with ⟨above, seen, isCommand, -⟩ | tag
    · have other := (command.clear q above isAbove seen).2
      rw [other] at isCommand
      cases isCommand
    · exact outside ⟨q, isAbove, tag⟩

/-- The one record of a command. -/
theorem contributionAt_command {blocks : List Node} {p : Way} {node : Node}
    (command : OpenCommand blocks p node) :
    (node.kind = .paramCommand → contributionAt blocks p =
        { parameters :=
            [{ name := node.name, contents := renderAll node.children, standalone := true }] }) ∧
      (node.kind = .returnsCommand →
        contributionAt blocks p = { returns := [renderAll node.children] }) := by
  constructor
  · intro param
    simp [contributionAt, command.found, Contribution.ofNode, param]
  · intro returns
    simp [contributionAt, command.found, Contribution.ofNode, returns]

/-- What consumed nodes add can be said by their ways, since each way leads to its node. -/
theorem flatMap_of_ways {α : Type} {blocks consumed : List Node} {ways : List Way}
    (found : ways.map (Node.document blocks).at? = consumed.map some) (field : Contribution → List α) :
    (consumed.flatMap fun node => field (Contribution.ofNode node)) =
      ways.flatMap fun p => field (contributionAt blocks p) := by
  induction ways generalizing consumed with
  | nil =>
      cases consumed with
      | nil => rfl
      | cons node nodes => cases found
  | cons p ways ih =>
      cases consumed with
      | nil => cases found
      | cons node nodes =>
          obtain ⟨here, later⟩ := List.cons.inj found
          rw [List.flatMap_cons, List.flatMap_cons, ih later]
          simp [contributionAt, here]

/-- **Commands are converted wherever they stand, tags excepted.** The table of a harvest is made of what
the cut nodes add, in the order of the document. Of the commands in the open those that no tag holds are
among the cut nodes; each adds one parameter with its name, or one result, and nothing else. Those that a
tag holds are not. -/
theorem harvest_converts_commands {blocks : List Node} {h : Harvest}
    (harvested : harvest blocks = .ok h) :
    ∃ ways : List Way, ways.Pairwise (· < ·) ∧ (∀ p, p ∈ ways ↔ Cut blocks p) ∧
      h.table.parameters = (ways.flatMap fun p => (contributionAt blocks p).parameters) ∧
      h.table.returns = (ways.flatMap fun p => (contributionAt blocks p).returns) ∧
      ∀ p node, OpenCommand blocks p node →
        (p ∈ ways ↔ ¬ InsideTag blocks p) ∧
        (node.kind = .paramCommand → contributionAt blocks p =
          { parameters :=
              [{ name := node.name, contents := renderAll node.children, standalone := true }] }) ∧
        (node.kind = .returnsCommand →
          contributionAt blocks p = { returns := [renderAll node.children] }) := by
  obtain ⟨-, -, table, consumed⟩ := harvest_eq_ok_iff.1 harvested
  have found : (takenWays .document (Node.document blocks)).map (Node.document blocks).at? =
      (taken blocks).map some := by
    rw [map_takenWays, takings_document]
  have cut : ∀ p, p ∈ takenWays .document (Node.document blocks) ↔ Cut blocks p := fun p => by
    rw [mem_takenWays, cut_iff]
  refine ⟨takenWays .document (Node.document blocks), takenWays_sorted _ _, cut, ?_, ?_, ?_⟩
  · rw [table]
    exact flatMap_of_ways found Contribution.parameters
  · rw [table]
    exact flatMap_of_ways found Contribution.returns
  · intro p node command
    rw [cut]
    exact ⟨cut_command_iff command, contributionAt_command command⟩

def paramBlock (name content : String) : Node :=
  { kind := .paramCommand
    children := [Node.paragraph [Node.plain content.toList] none]
    traits := [("name".toList, .str name.toList)] }

/-- Commands in a directive, in a list inside an item, and in a tag. -/
def nestedCommands : List Node :=
  [{ kind := .directive, children := [paramBlock "x" "a"] },
   bullets
    [lineItem "b" [{ kind := .orderedList, children := [paramBlock "y" "c"] }],
     lineItem "Returns: d" [paramBlock "z" "e"]]]

/-- A command in a list inside an item is taken; one inside a tag goes with the tag. -/
theorem harvest_converts_nestedCommands : ∃ h, harvest nestedCommands = .ok h ∧
    (∃ ways : List Way, ways.Pairwise (· < ·) ∧
      h.table.parameters = (ways.flatMap fun p => (contributionAt nestedCommands p).parameters) ∧
      [1, 0, 1, 0] ∈ ways ∧ ¬ InsideTag nestedCommands [1, 0, 1, 0] ∧ [1, 1, 1] ∉ ways) ∧
    h.table.parameters =
      [{ name := ['x'], contents := [['a']], standalone := true },
       { name := ['y'], contents := [['c']], standalone := true }] ∧
    h.table.returns = [[['d'], "\\param z e".toList]] := by
  have harvested := harvest_of_short nestedCommands (by decide +kernel)
  obtain ⟨ways, sorted, cut, parameters, -, each⟩ := harvest_converts_commands harvested
  have free : OpenCommand nestedCommands [1, 0, 1, 0] (paramBlock "y" "c") :=
    openCommand_of_reach rfl rfl
  have member : [1, 0, 1, 0] ∈ ways := (cut _).2 ((cut_iff _ _).2 ⟨_, rfl, rfl⟩)
  have held : OpenCommand nestedCommands [1, 1, 1] (paramBlock "z" "e") :=
    openCommand_of_reach rfl rfl
  have inside : InsideTag nestedCommands [1, 1, 1] := by
    refine ⟨[1, 1], ⟨⟨[1], rfl⟩, by decide⟩, 1, 1, _, _, _, rfl, rfl, rfl, rfl, rfl, .inl ?_⟩
    decide +kernel
  exact ⟨_, harvested, ⟨ways, sorted, parameters, member, (each _ _ free).1.1 member,
    fun also => (each _ _ held).1.1 also inside⟩, by decide +kernel, by decide +kernel⟩

/-- An outline tag with a command in its item. -/
def outlinedCommand : List Node := [bullets [lineItem "Parameters:" [paramBlock "x" "y"]]]

/-- Not every command in the open makes a record: this one is lost with the outline that holds it. -/
theorem harvest_outlinedCommand :
    OpenCommand outlinedCommand [0, 0, 1] (paramBlock "x" "y") ∧
      ∃ h, harvest outlinedCommand = .ok h ∧ h.table = {} ∧ h.blocks.length = 0 := by
  have harvested := harvest_of_short outlinedCommand (by decide +kernel)
  exact ⟨openCommand_of_reach rfl rfl, _, harvested, by decide +kernel, by decide +kernel⟩

end DocComment.Harvest
