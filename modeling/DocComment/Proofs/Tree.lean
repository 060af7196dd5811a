/- Ways in a markup tree. A way leads from a node down to one of its descendants, by the index of a
child at each level. The order of ways is the order of the document: a node comes before what is inside
it, and a child before its later siblings.

`Node.without` takes the subtrees at the end of some ways out of a tree and changes nothing else. A tree
out of which nothing is taken stays as it is (`Node.without_eq_self`), and what becomes of siblings is
found for each of them by itself (`withoutFrom_eq_filterMap`). -/
import DocComment.Markup.Node

namespace DocComment

set_option autoImplicit false

/-- The way from a node to a descendant, by the index of a child at each level. -/
abbrev Way := List Nat

/-- The first way leads to a proper ancestor of what the second one leads to. -/
def Above (q p : Way) : Prop := q <+: p ∧ q ≠ p

theorem not_above_nil (q : Way) : ¬ Above q [] := by
  rintro ⟨begins, ne⟩
  exact ne (List.prefix_nil.1 begins)

theorem above_cons_iff (q : Way) (i : Nat) (p : Way) :
    Above q (i :: p) ↔ q = [] ∨ ∃ r, q = i :: r ∧ Above r p := by
  cases q with
  | nil => simp [Above]
  | cons j r =>
      simp only [Above, List.cons_prefix_cons, List.cons.injEq, reduceCtorEq, false_or]
      constructor
      · rintro ⟨⟨rfl, begins⟩, ne⟩
        exact ⟨r, ⟨rfl, rfl⟩, begins, fun same => ne (same ▸ rfl)⟩
      · rintro ⟨r', ⟨rfl, rfl⟩, begins, ne⟩
        exact ⟨⟨rfl, begins⟩, fun same => ne (List.cons.inj same).2⟩

theorem Above.length_lt {q p : Way} (above : Above q p) : q.length < p.length := by
  obtain ⟨begins, ne⟩ := above
  exact Nat.lt_of_le_of_ne begins.length_le fun same => ne (begins.eq_of_length same)

/-- Induction on a tree: what holds of a node whenever it holds of its children holds of every node. -/
@[elab_as_elim]
theorem Node.induct {motive : Node → Prop}
    (step : ∀ node : Node, (∀ child ∈ node.children, motive child) → motive node) :
    ∀ node, motive node
  | ⟨kind, children, content, markup, info, attrs, traits, range⟩ =>
      step _ fun child member =>
        have _ : sizeOf child < sizeOf children := List.sizeOf_lt_of_mem member
        Node.induct step child
termination_by node => sizeOf node
decreasing_by
  simp only [Node.mk.sizeOf_spec]
  omega

namespace Node

def at? : Node → Way → Option Node
  | node, [] => some node
  | node, i :: p => (node.children[i]?).bind fun child => child.at? p

@[simp] theorem at?_nil (node : Node) : node.at? [] = some node := rfl

@[simp] theorem withChildren_children (node : Node) (children : List Node) :
    (node.withChildren children).children = children := rfl

@[simp] theorem withChildren_self (node : Node) : node.withChildren node.children = node := by
  cases node
  rfl

end Node

mutual

/-- A tree without the subtrees at the end of some ways. The node itself stays in any case. -/
def Node.without (gone : Way → Prop) [DecidablePred gone] : Node → Node
  | ⟨kind, children, content, markup, info, attrs, traits, range⟩ =>
    ⟨kind, withoutFrom gone 0 children, content, markup, info, attrs, traits, range⟩

/-- Siblings from an index on, without the subtrees at the end of some ways. -/
def withoutFrom (gone : Way → Prop) [DecidablePred gone] (i : Nat) : List Node → List Node
  | [] => []
  | node :: nodes =>
    if gone [i] then withoutFrom gone (i + 1) nodes
    else node.without (fun p => gone (i :: p)) :: withoutFrom gone (i + 1) nodes

end

theorem Node.without_eq (gone : Way → Prop) [DecidablePred gone] (node : Node) :
    node.without gone = node.withChildren (withoutFrom gone 0 node.children) := by
  obtain ⟨kind, children, content, markup, info, attrs, traits, range⟩ := node
  simp only [Node.without, Node.withChildren]

/-- What is left of siblings, when it is known for each of them whether it goes and what is left of it
if it stays. -/
theorem withoutFrom_eq_filterMap (left : Node → Option Node) (gone : Way → Prop)
    [DecidablePred gone] (nodes : List Node) (k : Nat)
    (goes : ∀ i node, nodes[i]? = some node → (gone [k + i] ↔ left node = none))
    (stays : ∀ i node rest, nodes[i]? = some node → left node = some rest →
      node.without (fun p => gone ((k + i) :: p)) = rest) :
    withoutFrom gone k nodes = nodes.filterMap left := by
  induction nodes generalizing k with
  | nil => rfl
  | cons node nodes ih =>
      have tail : withoutFrom gone (k + 1) nodes = nodes.filterMap left := by
        refine ih (k + 1) (fun i n found => ?_) (fun i n rest found isLeft => ?_)
        · simpa [Nat.add_assoc, Nat.add_comm 1 i] using goes (i + 1) n (by simpa using found)
        · simpa [Nat.add_assoc, Nat.add_comm 1 i] using
            stays (i + 1) n rest (by simpa using found) isLeft
      have head := goes 0 node rfl
      cases isLeft : left node with
      | none =>
          have out : gone [k] := head.2 isLeft
          rw [withoutFrom, if_pos out, tail, List.filterMap_cons_none isLeft]
      | some rest =>
          have kept : ¬ gone [k] := fun out => by simp [head.1 out] at isLeft
          have same : node.without (fun p => gone (k :: p)) = rest := stays 0 node rest rfl isLeft
          rw [withoutFrom, if_neg kept, tail, same, List.filterMap_cons_some isLeft]

/-- A tree out of which nothing is taken stays as it is. -/
theorem Node.without_eq_self (node : Node) (gone : Way → Prop) [DecidablePred gone]
    (none : ∀ i p, ¬ gone (i :: p)) : node.without gone = node := by
  induction node using Node.induct generalizing gone with
  | step node ih =>
      have kept : withoutFrom gone 0 node.children = node.children.filterMap some := by
        refine withoutFrom_eq_filterMap some gone node.children 0 (fun i child _ => ?_)
          (fun i child rest found same => ?_)
        · simp [none]
        · cases same
          exact ih child (List.mem_of_getElem? found) _ fun j p => none _ _
      rw [Node.without_eq, kept, List.filterMap_some, Node.withChildren_self]

end DocComment
