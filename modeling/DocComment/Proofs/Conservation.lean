/- What the harvest cuts out of a document, and that all else is conserved. A node is cut if it is a
command that no paragraph or heading holds, or a tag among the items of a bullet list that is a block of
the document, and if nothing above it is cut. A list is gone if it is cut out, or if it had children and
all of them are gone.

The walk of the harvest goes down from the document and stops at nodes that it takes and at paragraphs
and headings. `reach` is this walk along one way. What is cut is what the walk reaches and takes
(`cut_iff`), and what is gone is what it reaches and leaves nothing of (`gone_iff`); so the consumed
nodes are the cut ones, and what is left is the document without what is gone (`harvest_conserves`). -/
import DocComment.Proofs.Contribution
import Mathlib.Data.List.Basic

namespace DocComment.Harvest

set_option autoImplicit false

/-- A command that no paragraph or heading holds. -/
def CommandAt (blocks : List Node) (p : Way) : Prop :=
  ∃ node, (Node.document blocks).at? p = some node ∧ node.kind.isCommand = true ∧
    ∀ q above, Above q p → (Node.document blocks).at? q = some above →
      above.kind.holdsInlines = false

/-- A tag among the items of a bullet list that is a block of the document. -/
def TagAt (blocks : List Node) (p : Way) : Prop :=
  ∃ i j block item tag, p = [i, j] ∧ blocks[i]? = some block ∧ block.kind = .bulletList ∧
    block.children[j]? = some item ∧ TagItem.ofNode? item = some tag ∧
      (tag.known.isSome = true ∨ TagName.isSimple tag.name = true)

/-- What is cut out of the blocks of a document. -/
def Cut (blocks : List Node) (p : Way) : Prop :=
  (∀ q, Above q p → ¬ Cut blocks q) ∧ (CommandAt blocks p ∨ TagAt blocks p)
termination_by p.length
decreasing_by exact Above.length_lt ‹_›

/-- What is gone from the blocks of a document, itself and not only with something above it. -/
inductive Gone (blocks : List Node) : Way → Prop
  | cut {p : Way} (out : Cut blocks p) : Gone blocks p
  | emptied {p : Way} {list : Node} (found : (Node.document blocks).at? p = some list)
      (isList : list.kind.isList = true) (had : list.children ≠ [])
      (lost : ∀ i < list.children.length, Gone blocks (p ++ [i])) : Gone blocks p

/-! ## The walk along one way -/

/-- The node at the end of a way and its place, if the way passes no paragraph or heading. -/
def descend : Place → Node → Way → Option (Place × Node)
  | place, node, [] => some (place, node)
  | place, node, i :: p =>
    if node.kind.holdsInlines then none
    else (node.children[i]?).bind fun child => descend (place.below node.kind) child p

/-- The node at the end of a way and its place, if the walk of the harvest gets there. -/
def reach : Place → Node → Way → Option (Place × Node)
  | place, node, [] => some (place, node)
  | place, node, i :: p =>
    if isTaken place node || node.kind.holdsInlines then none
    else (node.children[i]?).bind fun child => reach (place.below node.kind) child p

theorem descend_cons {place : Place} {node child : Node} {i : Nat} (p : Way)
    (inlines : node.kind.holdsInlines = false) (found : node.children[i]? = some child) :
    descend place node (i :: p) = descend (place.below node.kind) child p := by
  simp [descend, inlines, found]

theorem reach_cons {place : Place} {node child : Node} {i : Nat} (p : Way)
    (untaken : isTaken place node = false) (inlines : node.kind.holdsInlines = false)
    (found : node.children[i]? = some child) :
    reach place node (i :: p) = reach (place.below node.kind) child p := by
  simp [reach, untaken, inlines, found]

/-- The walk goes on to a child only from a node that it neither takes nor skips. -/
theorem reach_cons_eq_some {place : Place} {node : Node} {i : Nat} {p : Way} {spot : Place × Node}
    (reached : reach place node (i :: p) = some spot) :
    isTaken place node = false ∧ node.kind.holdsInlines = false ∧
      ∃ child, node.children[i]? = some child ∧
        reach (place.below node.kind) child p = some spot := by
  simpa [reach, Option.bind_eq_some_iff, and_assoc] using reached

theorem descend_cons_eq_some {place : Place} {node : Node} {i : Nat} {p : Way}
    {spot : Place × Node} (down : descend place node (i :: p) = some spot) :
    node.kind.holdsInlines = false ∧
      ∃ child, node.children[i]? = some child ∧
        descend (place.below node.kind) child p = some spot := by
  simpa [descend, Option.bind_eq_some_iff] using down

/-- The walk gets to the end of a way if it takes nothing on the way. -/
theorem reach_eq_some_iff (place : Place) (node : Node) (p : Way) (spot : Place × Node) :
    reach place node p = some spot ↔
      descend place node p = some spot ∧
        ∀ q before, Above q p → reach place node q = some before →
          isTaken before.1 before.2 = false := by
  induction p generalizing place node with
  | nil =>
      simp only [reach, descend]
      exact ⟨fun here => ⟨here, fun q _ above => absurd above (not_above_nil q)⟩, fun both => both.1⟩
  | cons i p ih =>
      constructor
      · intro reached
        obtain ⟨untaken, inlines, child, found, onward⟩ := reach_cons_eq_some reached
        obtain ⟨down, clear⟩ := (ih _ child).1 onward
        refine ⟨(descend_cons p inlines found).trans down, ?_⟩
        intro q before above reachedBefore
        rcases (above_cons_iff q i p).1 above with rfl | ⟨r, rfl, aboveR⟩
        · cases reachedBefore
          exact untaken
        · rw [reach_cons r untaken inlines found] at reachedBefore
          exact clear r before aboveR reachedBefore
      · rintro ⟨down, clear⟩
        obtain ⟨inlines, child, found, onward⟩ := descend_cons_eq_some down
        have untaken : isTaken place node = false :=
          clear [] (place, node) ((above_cons_iff _ _ _).2 (.inl rfl)) rfl
        rw [reach_cons p untaken inlines found]
        refine (ih _ child).2 ⟨onward, fun r before aboveR reachedBefore => ?_⟩
        refine clear (i :: r) before ((above_cons_iff _ _ _).2 (.inr ⟨r, rfl, aboveR⟩)) ?_
        rw [reach_cons r untaken inlines found]
        exact reachedBefore

/-! ## What is cut -/

/-- A way down that passes no paragraph or heading is a way on which none of them is found. -/
theorem descend_eq_some_iff (place : Place) (node : Node) (p : Way) (last : Node) :
    (∃ at_, descend place node p = some (at_, last)) ↔
      node.at? p = some last ∧
        ∀ q above, Above q p → node.at? q = some above → above.kind.holdsInlines = false := by
  induction p generalizing place node with
  | nil =>
      simp only [descend, Node.at?_nil, Option.some.injEq, Prod.mk.injEq, exists_eq_left']
      exact ⟨fun here => ⟨here, fun q _ above => absurd above (not_above_nil q)⟩, fun both => both.1⟩
  | cons i p ih =>
      constructor
      · rintro ⟨at_, down⟩
        obtain ⟨inlines, child, found, onward⟩ := descend_cons_eq_some down
        obtain ⟨here, clear⟩ := (ih _ child).1 ⟨at_, onward⟩
        refine ⟨by simpa [Node.at?, found] using here, ?_⟩
        intro q above isAbove seen
        rcases (above_cons_iff q i p).1 isAbove with rfl | ⟨r, rfl, aboveR⟩
        · cases seen
          exact inlines
        · exact clear r above aboveR (by simpa [Node.at?, found] using seen)
      · rintro ⟨here, clear⟩
        have inlines := clear [] node ((above_cons_iff _ _ _).2 (.inl rfl)) rfl
        obtain ⟨child, found, onward⟩ := Option.bind_eq_some_iff.1 here
        obtain ⟨at_, down⟩ := (ih (place.below node.kind) child).2 ⟨onward, fun r above aboveR seen =>
          clear (i :: r) above ((above_cons_iff _ _ _).2 (.inr ⟨r, rfl, aboveR⟩))
            (by simpa [Node.at?, found] using seen)⟩
        exact ⟨at_, (descend_cons p inlines found).trans down⟩

theorem descend_inner {node : Node} {p : Way} {spot : Place × Node}
    (down : descend .inner node p = some spot) : spot.1 = .inner := by
  induction p generalizing node with
  | nil =>
      cases down
      rfl
  | cons i p ih =>
      obtain ⟨-, child, -, onward⟩ := descend_cons_eq_some down
      exact ih onward

/-- The places of items are those two steps below the document, in a bullet list. -/
theorem descend_item_iff (blocks : List Node) (p : Way) (item : Node) :
    descend .document (Node.document blocks) p = some (.item, item) ↔
      ∃ i j block, p = [i, j] ∧ blocks[i]? = some block ∧ block.kind = .bulletList ∧
        block.children[j]? = some item := by
  constructor
  · intro down
    match p with
    | [] => simp [descend] at down
    | [i] =>
        obtain ⟨-, block, -, onward⟩ := descend_cons_eq_some down
        simp [descend, Place.below] at onward
    | i :: j :: p =>
        obtain ⟨-, block, found, onward⟩ := descend_cons_eq_some down
        obtain ⟨-, child, foundChild, last⟩ := descend_cons_eq_some onward
        by_cases list : block.kind = .bulletList
        · cases p with
          | nil =>
              obtain ⟨-, same⟩ : _ ∧ child = item := by simpa [descend] using last
              exact ⟨i, j, block, rfl, found, list, same ▸ foundChild⟩
          | cons k p =>
              obtain ⟨-, inner, -, deeper⟩ := descend_cons_eq_some last
              have place := descend_inner (by simpa [list, Place.below] using deeper)
              simp at place
        · have deeper : descend .inner child p = some (.item, item) := by
            rw [← Place.below_block list]
            exact last
          have place := descend_inner deeper
          simp at place
  · rintro ⟨i, j, block, rfl, found, list, foundItem⟩
    rw [descend_cons [j] rfl found, descend_cons [] (by rw [list]; rfl) foundItem, list]
    rfl

theorem isTag_iff (item : Node) :
    isTag item = true ↔ ∃ tag, TagItem.ofNode? item = some tag ∧
      (tag.known.isSome = true ∨ TagName.isSimple tag.name = true) := by
  unfold isTag
  cases TagItem.ofNode? item <;> simp

/-- What may be cut is what the walk would take. -/
theorem candidate_iff (blocks : List Node) (p : Way) :
    CommandAt blocks p ∨ TagAt blocks p ↔
      ∃ place node, descend .document (Node.document blocks) p = some (place, node) ∧
        isTaken place node = true := by
  constructor
  · rintro (⟨node, found, command, clear⟩ | ⟨i, j, block, item, tag, way, found, list, foundItem, tagged⟩)
    · obtain ⟨place, down⟩ := (descend_eq_some_iff .document _ p node).2 ⟨found, clear⟩
      exact ⟨place, node, down, by simp [isTaken, command]⟩
    · have down := (descend_item_iff blocks p item).2 ⟨i, j, block, way, found, list, foundItem⟩
      have isTag := (isTag_iff item).2 ⟨tag, tagged⟩
      exact ⟨.item, item, down, by simp [isTaken, isTag]⟩
  · rintro ⟨place, node, down, taken⟩
    rcases Bool.or_eq_true_iff.1 taken with command | tagged
    · obtain ⟨found, clear⟩ := (descend_eq_some_iff .document _ p node).1 ⟨place, down⟩
      exact .inl ⟨node, found, command, clear⟩
    · obtain ⟨rfl, isTag⟩ : place = .item ∧ isTag node = true := by simpa using tagged
      obtain ⟨i, j, block, way, found, list, foundItem⟩ := (descend_item_iff blocks p node).1 down
      obtain ⟨tag, isTagged⟩ := (isTag_iff node).1 isTag
      exact .inr ⟨i, j, block, node, tag, way, found, list, foundItem, isTagged⟩

/-- **What is cut is what the walk reaches and takes.** -/
theorem cut_iff (blocks : List Node) (p : Way) :
    Cut blocks p ↔ ∃ spot, reach .document (Node.document blocks) p = some spot ∧
      isTaken spot.1 spot.2 = true := by
  -- The recursion is on the length of the way: what is said here holds of every way above it.
  have above : ∀ q, Above q p → (Cut blocks q ↔ ∃ spot,
      reach .document (Node.document blocks) q = some spot ∧ isTaken spot.1 spot.2 = true) :=
    fun q _ => cut_iff blocks q
  rw [Cut, candidate_iff]
  constructor
  · rintro ⟨clear, place, node, down, taken⟩
    refine ⟨(place, node), (reach_eq_some_iff _ _ _ _).2 ⟨down, ?_⟩, taken⟩
    intro q before isAbove reached
    cases takenBefore : isTaken before.1 before.2 with
    | false => rfl
    | true => exact absurd ((above q isAbove).2 ⟨before, reached, takenBefore⟩) (clear q isAbove)
  · rintro ⟨spot, reached, taken⟩
    obtain ⟨down, clear⟩ := (reach_eq_some_iff _ _ _ _).1 reached
    refine ⟨fun q isAbove cut => ?_, spot.1, spot.2, down, taken⟩
    obtain ⟨before, reachedBefore, takenBefore⟩ := (above q isAbove).1 cut
    simp [clear q before isAbove reachedBefore] at takenBefore
termination_by p.length
decreasing_by exact Above.length_lt ‹_›

/-! ## What is gone -/

theorem reach_at? {place : Place} {node : Node} {p : Way} {spot : Place × Node}
    (reached : reach place node p = some spot) : node.at? p = some spot.2 := by
  induction p generalizing place node with
  | nil =>
      cases reached
      rfl
  | cons i p ih =>
      obtain ⟨-, -, child, found, onward⟩ := reach_cons_eq_some reached
      simpa [Node.at?, found] using ih onward

/-- The last step of the walk along a way. -/
theorem reach_snoc (place : Place) (node : Node) (p : Way) (i : Nat) (spot : Place × Node) :
    reach place node (p ++ [i]) = some spot ↔
      ∃ before, reach place node p = some before ∧ isTaken before.1 before.2 = false ∧
        before.2.kind.holdsInlines = false ∧ ∃ child, before.2.children[i]? = some child ∧
          spot = (before.1.below before.2.kind, child) := by
  induction p generalizing place node with
  | nil =>
      constructor
      · intro reached
        obtain ⟨untaken, inlines, child, found, here⟩ := reach_cons_eq_some reached
        cases here
        exact ⟨(place, node), rfl, untaken, inlines, child, found, rfl⟩
      · rintro ⟨before, here, untaken, inlines, child, found, rfl⟩
        cases here
        exact reach_cons [] untaken inlines found
  | cons j p ih =>
      constructor
      · intro reached
        obtain ⟨untaken, inlines, child, found, onward⟩ := reach_cons_eq_some reached
        obtain ⟨before, reachedBefore, rest⟩ := (ih _ child).1 onward
        exact ⟨before, (reach_cons p untaken inlines found).trans reachedBefore, rest⟩
      · rintro ⟨before, reachedBefore, rest⟩
        obtain ⟨untaken, inlines, child, found, onward⟩ := reach_cons_eq_some reachedBefore
        exact (reach_cons (p ++ [i]) untaken inlines found).trans
          ((ih _ child).2 ⟨before, onward, rest⟩)

/-- From a node that it neither takes nor skips the walk goes on to every child. -/
theorem reach_child {place : Place} {node : Node} {p : Way} {i : Nat} {before : Place × Node}
    {child : Node} (reached : reach place node p = some before)
    (untaken : isTaken before.1 before.2 = false) (inlines : before.2.kind.holdsInlines = false)
    (found : before.2.children[i]? = some child) :
    reach place node (p ++ [i]) = some (before.1.below before.2.kind, child) :=
  (reach_snoc _ _ _ _ _).2 ⟨before, reached, untaken, inlines, child, found, rfl⟩

theorem regrow_eq_none_iff (node : Node) (left : List Node) :
    regrow node left = none ↔ node.kind.isList = true ∧ left = [] ∧ node.children ≠ [] := by
  simp [regrow, and_assoc]

theorem regrow_eq_some {node rest : Node} {left : List Node} (grown : regrow node left = some rest) :
    rest = node.withChildren left := by
  unfold regrow at grown
  split at grown
  · cases grown
  · exact (Option.some.inj grown).symm

theorem remains_of_taken {place : Place} {node : Node} (taken : isTaken place node = true) :
    remains place node = none := by
  rw [remains_eq, if_pos taken]

theorem remains_of_inlines {place : Place} {node : Node} (untaken : isTaken place node = false)
    (inlines : node.kind.holdsInlines = true) : remains place node = some node := by
  rw [remains_eq, if_neg (by simp [untaken]), if_pos inlines]

theorem remains_of_blocks {place : Place} {node : Node} (untaken : isTaken place node = false)
    (inlines : node.kind.holdsInlines = false) :
    remains place node =
      regrow node (node.children.filterMap (remains (place.below node.kind))) := by
  rw [remains_eq, if_neg (by simp [untaken]), if_neg (by simp [inlines])]

/-- What is left of a node is the node itself if it holds inlines, and otherwise the node with what is
left of its children. -/
theorem remains_eq_some {place : Place} {node rest : Node} (left : remains place node = some rest) :
    isTaken place node = false ∧
      ((node.kind.holdsInlines = true ∧ rest = node) ∨
        (node.kind.holdsInlines = false ∧
          rest = node.withChildren
            (node.children.filterMap (remains (place.below node.kind))))) := by
  cases taken : isTaken place node with
  | true => simp [remains_of_taken taken] at left
  | false =>
      refine ⟨rfl, ?_⟩
      cases inlines : node.kind.holdsInlines with
      | true =>
          rw [remains_of_inlines taken inlines] at left
          exact .inl ⟨rfl, (Option.some.inj left).symm⟩
      | false =>
          rw [remains_of_blocks taken inlines] at left
          exact .inr ⟨rfl, regrow_eq_some left⟩

theorem kind_of_remains {place : Place} {node rest : Node} (left : remains place node = some rest) :
    rest.kind = node.kind := by
  rcases (remains_eq_some left).2 with ⟨-, rfl⟩ | ⟨-, rfl⟩ <;> rfl

/-- Where the walk leaves nothing of a node, the node is gone. -/
theorem gone_of_reach (blocks : List Node) (node : Node) (place : Place) (p : Way)
    (reached : reach .document (Node.document blocks) p = some (place, node))
    (nothing : remains place node = none) : Gone blocks p := by
  induction node using Node.induct generalizing place p with
  | step node ih =>
      cases taken : isTaken place node with
      | true => exact .cut ((cut_iff blocks p).2 ⟨(place, node), reached, taken⟩)
      | false =>
          cases inlines : node.kind.holdsInlines with
          | true => simp [remains_of_inlines taken inlines] at nothing
          | false =>
              rw [remains_of_blocks taken inlines, regrow_eq_none_iff] at nothing
              obtain ⟨isList, allGone, had⟩ := nothing
              refine .emptied (reach_at? reached) isList had fun i bound => ?_
              have found : node.children[i]? = some node.children[i] := by simp [bound]
              have member : node.children[i] ∈ node.children := List.getElem_mem bound
              refine ih _ member (place.below node.kind) (p ++ [i]) ?_ ?_
              · exact reach_child reached taken inlines found
              · exact List.filterMap_eq_nil_iff.1 allGone _ member

/-- **What is gone is what the walk reaches and leaves nothing of.** -/
theorem gone_iff (blocks : List Node) (p : Way) :
    Gone blocks p ↔ ∃ spot, reach .document (Node.document blocks) p = some spot ∧
      remains spot.1 spot.2 = none := by
  constructor
  · intro gone
    induction gone with
    | cut out =>
        obtain ⟨spot, reached, taken⟩ := (cut_iff blocks _).1 out
        exact ⟨spot, reached, remains_of_taken taken⟩
    | @emptied p list found isList had lost ih =>
        -- The list had a child, and the walk has come to it through the list.
        have first : 0 < list.children.length := List.length_pos_iff.2 had
        obtain ⟨_, reachedChild, -⟩ := ih 0 first
        obtain ⟨spot, reached, untaken, inlines, -⟩ := (reach_snoc _ _ _ _ _).1 reachedChild
        obtain rfl : spot.2 = list := Option.some.inj ((reach_at? reached).symm.trans found)
        refine ⟨spot, reached, ?_⟩
        rw [remains_of_blocks untaken inlines, regrow_eq_none_iff]
        refine ⟨isList, List.filterMap_eq_nil_iff.2 fun child member => ?_, had⟩
        obtain ⟨i, bound, rfl⟩ := List.mem_iff_getElem.1 member
        obtain ⟨below, reachedBelow, nothing⟩ := ih i bound
        have step := reach_child reached untaken inlines (List.getElem?_eq_getElem bound)
        obtain rfl := Option.some.inj (step.symm.trans reachedBelow)
        exact nothing
  · rintro ⟨spot, reached, nothing⟩
    exact gone_of_reach blocks spot.2 spot.1 p reached nothing

instance (blocks : List Node) : DecidablePred (Gone blocks) := fun p =>
  decidable_of_iff
    ((reach .document (Node.document blocks) p).any fun spot => (remains spot.1 spot.2).isNone)
    (by simp [gone_iff, Option.any_eq_true])

/-- What is left of a node is the node without what the walk leaves nothing of. -/
theorem without_of_remains (node : Node) (place : Place) (rest : Node) (gone : Way → Prop)
    [DecidablePred gone]
    (agree : ∀ i p, gone (i :: p) ↔ ∃ spot, reach place node (i :: p) = some spot ∧
      remains spot.1 spot.2 = none)
    (left : remains place node = some rest) : node.without gone = rest := by
  induction node using Node.induct generalizing place rest gone with
  | step node ih =>
      obtain ⟨untaken, ⟨inlines, rfl⟩ | ⟨inlines, rfl⟩⟩ := remains_eq_some left
      · exact Node.without_eq_self _ gone fun i p => by simp [agree, reach, inlines]
      · rw [Node.without_eq]
        congr 1
        refine withoutFrom_eq_filterMap _ gone node.children 0 (fun i child found => ?_)
          (fun i child restChild found leftChild => ?_)
        · rw [Nat.zero_add, agree, reach_cons [] untaken inlines found]
          simp [reach]
        · refine ih child (List.mem_of_getElem? found) _ restChild _ (fun j p => ?_) leftChild
          rw [Nat.zero_add, agree, reach_cons (j :: p) untaken inlines found]

/-! ## The ways to what is taken -/

mutual

/-- The ways to the nodes that are taken, in the order of the document. -/
def takenWays (place : Place) : Node → List Way
  | ⟨kind, children, content, markup, info, attrs, traits, range⟩ =>
    if isTaken place ⟨kind, children, content, markup, info, attrs, traits, range⟩ then [[]]
    else if kind.holdsInlines then []
    else takenWaysFrom (place.below kind) 0 children

/-- The ways to the nodes that are taken from siblings, which are counted from an index on. -/
def takenWaysFrom (place : Place) (i : Nat) : List Node → List Way
  | [] => []
  | node :: nodes => (takenWays place node).map (i :: ·) ++ takenWaysFrom place (i + 1) nodes

end

theorem takenWays_eq (place : Place) (node : Node) :
    takenWays place node =
      if isTaken place node then [[]]
      else if node.kind.holdsInlines then []
      else takenWaysFrom (place.below node.kind) 0 node.children := by
  cases node
  rw [takenWays]

/-- A way below siblings begins with the index of one of them, counted from where they begin. -/
theorem mem_takenWaysFrom (place : Place) (k : Nat) (nodes : List Node) (q : Way) :
    q ∈ takenWaysFrom place k nodes ↔
      ∃ i node p, nodes[i]? = some node ∧ q = (k + i) :: p ∧ p ∈ takenWays place node := by
  induction nodes generalizing k with
  | nil => simp [takenWaysFrom]
  | cons node nodes ih =>
      rw [takenWaysFrom, List.mem_append, List.mem_map, ih]
      constructor
      · rintro (⟨p, member, rfl⟩ | ⟨i, n, p, found, rfl, member⟩)
        · exact ⟨0, node, p, rfl, rfl, member⟩
        · exact ⟨i + 1, n, p, found, by rw [Nat.add_assoc, Nat.add_comm 1 i], member⟩
      · rintro ⟨i, n, p, found, rfl, member⟩
        cases i with
        | zero =>
            cases found
            exact .inl ⟨p, member, rfl⟩
        | succ i => exact .inr ⟨i, n, p, found, by rw [Nat.add_assoc, Nat.add_comm 1 i], member⟩

/-- These are the ways to what the walk reaches and takes. -/
theorem mem_takenWays (place : Place) (node : Node) (p : Way) :
    p ∈ takenWays place node ↔
      ∃ spot, reach place node p = some spot ∧ isTaken spot.1 spot.2 = true := by
  rw [takenWays_eq]
  induction p generalizing place node with
  | nil =>
      cases taken : isTaken place node with
      | true => simp [reach, taken]
      | false =>
          cases inlines : node.kind.holdsInlines <;> simp [reach, taken, mem_takenWaysFrom]
  | cons i p ih =>
      cases taken : isTaken place node with
      | true => simp [reach, taken]
      | false =>
          cases inlines : node.kind.holdsInlines with
          | true => simp [reach, inlines]
          | false =>
              simp only [Bool.false_eq_true, if_false, mem_takenWaysFrom, Nat.zero_add]
              constructor
              · rintro ⟨j, child, q, found, same, member⟩
                cases same
                rw [reach_cons p taken inlines found]
                rw [takenWays_eq] at member
                exact (ih _ child).1 member
              · rintro ⟨spot, reached, takenSpot⟩
                obtain ⟨-, -, child, found, onward⟩ := reach_cons_eq_some reached
                refine ⟨i, child, p, found, rfl, ?_⟩
                rw [takenWays_eq]
                exact (ih _ child).2 ⟨spot, onward, takenSpot⟩

/-- Ways below an earlier sibling come before those below a later one, whatever follows. -/
theorem takenWaysFrom_sorted (place : Place) (k : Nat) (nodes : List Node)
    (each : ∀ node ∈ nodes, (takenWays place node).Pairwise (· < ·)) :
    (takenWaysFrom place k nodes).Pairwise (· < ·) := by
  induction nodes generalizing k with
  | nil => exact .nil
  | cons node nodes ih =>
      rw [takenWaysFrom, List.pairwise_append]
      refine ⟨?_, ih (k + 1) fun n member => each n (List.mem_cons_of_mem _ member), ?_⟩
      · rw [List.pairwise_map]
        refine (each node List.mem_cons_self).imp fun less => ?_
        exact List.cons_lt_cons_iff.2 (.inr ⟨rfl, less⟩)
      · intro p first q later
        obtain ⟨p', -, rfl⟩ := List.mem_map.1 first
        obtain ⟨i, n, q', -, rfl, -⟩ := (mem_takenWaysFrom place (k + 1) nodes q).1 later
        exact List.cons_lt_cons_iff.2 (.inl (by omega))

theorem takenWays_sorted (place : Place) (node : Node) :
    (takenWays place node).Pairwise (· < ·) := by
  induction node using Node.induct generalizing place with
  | step node ih =>
      rw [takenWays_eq]
      split
      · exact List.pairwise_singleton _ _
      · split
        · exact .nil
        · exact takenWaysFrom_sorted _ 0 _ fun child member => ih child member _

/-- The ways and the nodes are listed in the same order, sibling by sibling. -/
theorem map_takenWaysFrom (place : Place) (k : Nat) (nodes : List Node)
    (look : Way → Option Node)
    (sees : ∀ i node p, nodes[i]? = some node → look ((k + i) :: p) = node.at? p)
    (each : ∀ node ∈ nodes, (takenWays place node).map node.at? = (takings place node).map some) :
    (takenWaysFrom place k nodes).map look = (nodes.flatMap (takings place)).map some := by
  induction nodes generalizing k with
  | nil => rfl
  | cons node nodes ih =>
      have here : look ∘ (k :: ·) = node.at? := by
        funext p
        exact sees 0 node p rfl
      have later := ih (k + 1)
        (fun i n p found => by
          simpa [Nat.add_assoc, Nat.add_comm 1 i] using sees (i + 1) n p (by simpa using found))
        (fun n member => each n (List.mem_cons_of_mem _ member))
      rw [takenWaysFrom, List.map_append, List.map_map, here, each node List.mem_cons_self, later,
        List.flatMap_cons, List.map_append]

/-- The nodes at the end of these ways are the ones that are taken. -/
theorem map_takenWays (place : Place) (node : Node) :
    (takenWays place node).map node.at? = (takings place node).map some := by
  induction node using Node.induct generalizing place with
  | step node ih =>
      rw [takenWays_eq, takings_eq]
      split
      · rfl
      · split
        · rfl
        · refine map_takenWaysFrom _ 0 _ _ (fun i child p found => ?_)
            fun child member => ih child member _
          simp [Node.at?, found]

/-! ## Where nothing is taken -/

theorem regrow_children (node : Node) : regrow node node.children = some node := by
  cases empty : node.children.isEmpty <;> simp [regrow, empty]

/-- Where nothing is taken everything is left. -/
theorem remains_of_takings_nil {place : Place} {node : Node} (nothing : takings place node = []) :
    remains place node = some node := by
  induction node using Node.induct generalizing place with
  | step node ih =>
      rw [takings_eq] at nothing
      split at nothing
      · cases nothing
      · rename_i untaken
        have untaken : isTaken place node = false := by simpa using untaken
        split at nothing
        · rename_i inlines
          exact remains_of_inlines untaken inlines
        · rename_i blocks
          have all : node.children.filterMap (remains (place.below node.kind)) =
              node.children.filterMap some :=
            List.filterMap_congr fun child member =>
              ih child member (List.flatMap_eq_nil_iff.1 nothing child member)
          rw [remains_of_blocks untaken (by simpa using blocks), all, List.filterMap_some,
            regrow_children]

/-- Nothing is lost only if everything stays: a list that lost an entry would be shorter. -/
theorem eq_some_of_filterMap_eq_self {α : Type} {f : α → Option α} {l : List α}
    (same : l.filterMap f = l) : ∀ a ∈ l, f a = some a := by
  induction l with
  | nil => simp
  | cons a l ih =>
      cases image : f a with
      | none =>
          have shorter := List.length_filterMap_le f l
          rw [List.filterMap_cons_none image] at same
          rw [same, List.length_cons] at shorter
          omega
      | some b =>
          rw [List.filterMap_cons_some image] at same
          obtain ⟨rfl, rest⟩ := List.cons.inj same
          simpa [image] using ih rest

/-- Where everything is left nothing is taken. -/
theorem takings_nil_of_remains {place : Place} {node : Node} (all : remains place node = some node) :
    takings place node = [] := by
  induction node using Node.induct generalizing place with
  | step node ih =>
      rw [takings_eq]
      obtain ⟨untaken, ⟨inlines, -⟩ | ⟨inlines, same⟩⟩ := remains_eq_some all
      · simp [untaken, inlines]
      · have each := eq_some_of_filterMap_eq_self (congrArg Node.children same).symm
        simp only [untaken, inlines, Bool.false_eq_true, if_false]
        exact List.flatMap_eq_nil_iff.2 fun child member => ih child member (each child member)

theorem takings_document (blocks : List Node) :
    takings .document (Node.document blocks) = taken blocks := by
  rw [takings_eq]
  rfl

theorem remains_document (blocks : List Node) :
    remains .document (Node.document blocks) = some (Node.document (kept blocks)) := by
  rw [remains_eq]
  rfl

theorem taken_eq_nil_iff (blocks : List Node) : taken blocks = [] ↔ kept blocks = blocks := by
  rw [← takings_document]
  constructor
  · intro nothing
    have all := (remains_document blocks).symm.trans (remains_of_takings_nil nothing)
    exact congrArg Node.children (Option.some.inj all)
  · intro same
    exact takings_nil_of_remains ((remains_document blocks).trans (by rw [same]))

/-- **The harvest conserves what it does not cut.** The consumed nodes are the cut ones, each once and
in the order of the document; the blocks that are left are the document without what is gone; and
nothing is consumed exactly if nothing is changed. -/
theorem harvest_conserves {blocks : List Node} {h : Harvest} (harvested : harvest blocks = .ok h) :
    (∃ ways : List Way, ways.Pairwise (· < ·) ∧ (∀ p, p ∈ ways ↔ Cut blocks p) ∧
        ways.map (Node.document blocks).at? = h.consumed.map some) ∧
      Node.document h.blocks = (Node.document blocks).without (Gone blocks) ∧
      (h.consumed = [] ↔ h.blocks = blocks) := by
  obtain ⟨-, left, -, consumed⟩ := harvest_eq_ok_iff.1 harvested
  rw [left, consumed]
  refine ⟨⟨takenWays .document (Node.document blocks), takenWays_sorted _ _, fun p => ?_, ?_⟩, ?_,
    taken_eq_nil_iff blocks⟩
  · rw [mem_takenWays, cut_iff]
  · rw [map_takenWays, takings_document]
  · exact (without_of_remains _ .document _ (Gone blocks) (fun i p => gone_iff blocks (i :: p))
      (remains_document blocks)).symm

/-- A tag, a command before other content, and a list that holds only a command. -/
def cutBlocks : List Node :=
  [bullets
    [lineItem "Returns: a" [],
     { kind := .listItem
       children := [{ kind := .paramCommand }, Node.paragraph [Node.plain ['b']] none] }],
   { kind := .quote
     children := [{ kind := .orderedList, children := [{ kind := .returnsCommand }] },
       Node.paragraph [Node.plain ['c']] none] }]

theorem harvest_conserves_cutBlocks : ∃ h, harvest cutBlocks = .ok h ∧
    (∃ ways : List Way, ways.Pairwise (· < ·) ∧ (∀ p, p ∈ ways ↔ Cut cutBlocks p) ∧
        ways.map (Node.document cutBlocks).at? = h.consumed.map some) ∧
      Node.document h.blocks = (Node.document cutBlocks).without (Gone cutBlocks) ∧
      h.consumed.length = 3 ∧ h.blocks.length = 2 ∧ Gone cutBlocks [1, 0] := by
  have harvested := harvest_of_short cutBlocks (by decide +kernel)
  obtain ⟨consumed, left, -⟩ := harvest_conserves harvested
  exact ⟨_, harvested, consumed, left, by decide +kernel, by decide +kernel, by decide +kernel⟩

end DocComment.Harvest
