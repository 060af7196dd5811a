/- Texts as stacks of lines. Rendering joins the texts of blocks with newlines and puts leads before
their lines; both act line by line. So the lines of a rendered sequence are the lines of its members one
below the other (`lines_joinWith_gap`), and a lead changes each line on its own (`lines_indentAll`,
`lines_indentFrom`). The text of a node is put together from the texts of its children
(`Node.render_list`, `Node.render_other`).

Before that, what it means that a text begins or ends with another (`after?_eq_some_iff`,
`before?_eq_some_iff`). -/
import DocComment.Markup.Render

namespace DocComment.Text

set_option autoImplicit false

/-! ## Beginnings and endings -/

theorem after?_eq_some_iff {head t rest : Text} : after? head t = some rest ↔ t = head ++ rest := by
  induction head generalizing t with
  | nil => rw [after?, Option.some.injEq, List.nil_append]
  | cons h head ih =>
      cases t with
      | nil => simp [after?]
      | cons c t =>
          by_cases same : h = c
          · rw [after?, if_pos same, ih, same, List.cons_append, List.cons.injEq, and_iff_right rfl]
          · rw [after?, if_neg same]
            simp [Ne.symm same]

theorem startsWith_iff {t head : Text} : startsWith t head = true ↔ head <+: t := by
  rw [startsWith, Option.isSome_iff_exists]
  constructor
  · rintro ⟨rest, found⟩
    exact ⟨rest, (after?_eq_some_iff.1 found).symm⟩
  · rintro ⟨rest, split⟩
    exact ⟨rest, after?_eq_some_iff.2 split.symm⟩

theorem before?_eq_some_iff {tail t front : Text} : before? tail t = some front ↔ t = front ++ tail := by
  rw [before?, Option.map_eq_some_iff]
  constructor
  · rintro ⟨rest, found, rfl⟩
    rw [after?_eq_some_iff] at found
    rw [← List.reverse_reverse t, found, List.reverse_append, List.reverse_reverse]
  · rintro rfl
    exact ⟨front.reverse, after?_eq_some_iff.2 List.reverse_append, List.reverse_reverse front⟩

/-! ## Pieces between separators -/

section

variable {sep : Char}

theorem splitOn_ne_nil (t : Text) : splitOn sep t ≠ [] := by
  cases t with
  | nil => simp [splitOn]
  | cons c t =>
      unfold splitOn
      split
      · simp
      · split <;> simp

theorem splitOn_sep (t : Text) : splitOn sep (sep :: t) = [] :: splitOn sep t := by simp [splitOn]

theorem splitOn_cons {c : Char} (other : c ≠ sep) (t : Text) :
    splitOn sep (c :: t) = (splitOn sep t).modifyHead (c :: ·) := by
  cases split : splitOn sep t with
  | nil => exact absurd split (splitOn_ne_nil t)
  | cons piece pieces => simp [splitOn, other, split]

/-- A separator ends the pieces before it. -/
theorem splitOn_append (s t : Text) : splitOn sep (s ++ sep :: t) = splitOn sep s ++ splitOn sep t := by
  induction s with
  | nil => exact splitOn_sep t
  | cons c s ih =>
      by_cases same : c = sep
      · rw [same, List.cons_append, splitOn_sep, splitOn_sep, ih, List.cons_append]
      · rw [List.cons_append, splitOn_cons same, splitOn_cons same, ih]
        cases split : splitOn sep s with
        | nil => exact absurd split (splitOn_ne_nil s)
        | cons piece pieces => rfl

theorem splitOn_eq_singleton {t : Text} (free : sep ∉ t) : splitOn sep t = [t] := by
  induction t with
  | nil => rfl
  | cons c t ih =>
      simp only [List.mem_cons, not_or] at free
      rw [splitOn_cons (Ne.symm free.1), ih free.2]
      rfl

theorem joinWith_cons {piece : Text} {pieces : List Text} (more : pieces ≠ []) :
    joinWith [sep] (piece :: pieces) = piece ++ sep :: joinWith [sep] pieces := by
  cases pieces with
  | nil => exact absurd rfl more
  | cons next pieces => simp [joinWith]

/-- What was joined can be split again if the separator is in none of the pieces. -/
theorem splitOn_joinWith {pieces : List Text} (some : pieces ≠ [])
    (free : ∀ piece ∈ pieces, sep ∉ piece) : splitOn sep (joinWith [sep] pieces) = pieces := by
  induction pieces with
  | nil => exact absurd rfl some
  | cons piece pieces ih =>
      have first := splitOn_eq_singleton (free piece (List.mem_cons_self ..))
      by_cases more : pieces = []
      · rw [more]
        exact first
      · rw [joinWith_cons more, splitOn_append, first, ih more fun p member =>
          free p (List.mem_cons_of_mem _ member)]
        rfl

end

/-! ## Lines -/

theorem lines_ne_nil (t : Text) : lines t ≠ [] := splitOn_ne_nil t

theorem lines_newline (t : Text) : lines ('\n' :: t) = [] :: lines t := splitOn_sep t

theorem lines_cons {c : Char} (other : c ≠ '\n') (t : Text) :
    lines (c :: t) = (lines t).modifyHead (c :: ·) := splitOn_cons other t

/-- A newline ends the lines before it. -/
theorem lines_append_newline (s t : Text) : lines (s ++ '\n' :: t) = lines s ++ lines t :=
  splitOn_append s t

theorem lines_eq_singleton {t : Text} (free : '\n' ∉ t) : lines t = [t] := splitOn_eq_singleton free

/-- Lines are cut at every newline, so none is left. -/
theorem not_mem_of_mem_lines {t line : Text} (member : line ∈ lines t) : '\n' ∉ line := by
  induction t generalizing line with
  | nil => simp_all [lines, splitOn]
  | cons c t ih =>
      by_cases newline : c = '\n'
      · rw [newline, lines_newline, List.mem_cons] at member
        rcases member with rfl | member
        · simp
        · exact ih member
      · rw [lines_cons newline] at member
        cases split : lines t with
        | nil => exact absurd split (lines_ne_nil t)
        | cons first rest =>
            rw [split] at ih member
            simp only [List.modifyHead_cons, List.mem_cons] at member
            rcases member with rfl | member
            · simpa [Ne.symm newline] using ih (List.mem_cons_self ..)
            · exact ih (List.mem_cons_of_mem _ member)

theorem unlines_cons {line : Text} {rest : List Text} (more : rest ≠ []) :
    unlines (line :: rest) = line ++ '\n' :: unlines rest := joinWith_cons more

/-- Nothing is lost between the lines but the newlines that are put back. -/
theorem unlines_lines (t : Text) : unlines (lines t) = t := by
  induction t with
  | nil => rfl
  | cons c t ih =>
      have some := lines_ne_nil t
      by_cases newline : c = '\n'
      · rw [newline, lines_newline, unlines_cons some, ih]
        rfl
      · rw [lines_cons newline]
        cases split : lines t with
        | nil => exact absurd split some
        | cons first rest =>
            rw [split] at ih
            rw [List.modifyHead_cons]
            cases rest with
            | nil => simpa [unlines, joinWith] using ih
            | cons next rest =>
                rw [unlines_cons (by simp)] at ih ⊢
                rw [List.cons_append, ih]

theorem lines_unlines {pieces : List Text} (some : pieces ≠ [])
    (free : ∀ line ∈ pieces, '\n' ∉ line) : lines (unlines pieces) = pieces :=
  splitOn_joinWith some free

/-- The lines of texts that are joined are the lines of each. -/
theorem lines_unlines_flatMap {pieces : List Text} (some : pieces ≠ []) :
    lines (unlines pieces) = pieces.flatMap lines := by
  induction pieces with
  | nil => exact absurd rfl some
  | cons piece pieces ih =>
      by_cases more : pieces = []
      · rw [more, List.flatMap_singleton]
        rfl
      · rw [unlines_cons more, lines_append_newline, ih more, List.flatMap_cons]

theorem unlines_concat (above : List Text) (last : Text) :
    unlines (above ++ [last]) = above.flatMap (· ++ ['\n']) ++ last := by
  induction above with
  | nil => rfl
  | cons line above ih =>
      rw [List.cons_append, unlines_cons (by simp), ih]
      simp

/-! ## Stacks -/

/-- Groups of lines one below the other, with an empty line between neighbours if they are loose. -/
def stack (loose : Bool) : List (List Text) → List Text
  | [] => []
  | [group] => group
  | group :: next :: groups =>
    group ++ ((if loose then [[]] else []) ++ stack loose (next :: groups))

theorem stack_cons_cons (loose : Bool) (group next : List Text) (groups : List (List Text)) :
    stack loose (group :: next :: groups) =
      group ++ ((if loose then [[]] else []) ++ stack loose (next :: groups)) := rfl

theorem length_stack_cons_cons (loose : Bool) (group next : List Text) (groups : List (List Text)) :
    (stack loose (group :: next :: groups)).length =
      group.length + loose.toNat + (stack loose (next :: groups)).length := by
  rw [stack_cons_cons, List.length_append, List.length_append, Nat.add_assoc]
  cases loose <;> rfl

/-- A stack begins with its first group. -/
theorem exists_stack_cons (loose : Bool) (group : List Text) (groups : List (List Text)) :
    ∃ below, stack loose (group :: groups) = group ++ below := by
  cases groups with
  | nil => exact ⟨[], (List.append_nil _).symm⟩
  | cons next groups => exact ⟨_, stack_cons_cons loose group next groups⟩

/-- Groups with lines make a stack of at least as many lines. -/
theorem length_le_stack (loose : Bool) {groups : List (List Text)} (filled : [] ∉ groups) :
    groups.length ≤ (stack loose groups).length := by
  induction groups with
  | nil => exact Nat.zero_le _
  | cons group groups ih =>
      simp only [List.mem_cons, not_or] at filled
      have height := List.length_pos_iff.2 (Ne.symm filled.1)
      cases groups with
      | nil => exact height
      | cons next groups =>
          have below := ih filled.2
          rw [stack_cons_cons, List.length_append, List.length_append, List.length_cons]
          omega

/-- A line of the stack is an empty one between groups, or a line of a group. -/
theorem mem_stack {loose : Bool} {groups : List (List Text)} {row : Text}
    (member : row ∈ stack loose groups) :
    loose = true ∧ row = [] ∨ ∃ group ∈ groups, row ∈ group := by
  induction groups with
  | nil => cases member
  | cons group groups ih =>
      cases groups with
      | nil => exact .inr ⟨group, List.mem_cons_self .., member⟩
      | cons next groups =>
          rw [stack_cons_cons, List.mem_append, List.mem_append] at member
          rcases member with here | between | below
          · exact .inr ⟨group, List.mem_cons_self .., here⟩
          · cases loose with
            | true => exact .inl ⟨rfl, by simpa using between⟩
            | false => cases between
          · exact (ih below).imp_right fun ⟨found, member, inside⟩ =>
              ⟨found, List.mem_cons_of_mem _ member, inside⟩

/-- No line of a group is lost in the stack. -/
theorem mem_stack_of_mem {loose : Bool} {groups : List (List Text)} {group : List Text} {row : Text}
    (found : group ∈ groups) (member : row ∈ group) : row ∈ stack loose groups := by
  induction groups with
  | nil => cases found
  | cons first groups ih =>
      cases groups with
      | nil =>
          obtain rfl : group = first := by simpa using found
          exact member
      | cons next groups =>
          rw [stack_cons_cons, List.mem_append, List.mem_append]
          rcases List.mem_cons.1 found with rfl | found
          · exact .inl member
          · exact .inr (.inr (ih found))

/-- A stack ends as one of its groups does. -/
theorem getLast?_stack {loose : Bool} {groups : List (List Text)} (filled : [] ∉ groups) {row : Text}
    (last : (stack loose groups).getLast? = some row) : ∃ group ∈ groups, group.getLast? = some row := by
  induction groups with
  | nil => cases last
  | cons group groups ih =>
      cases groups with
      | nil => exact ⟨group, List.mem_cons_self .., last⟩
      | cons next groups =>
          simp only [List.mem_cons, not_or] at filled ih
          obtain ⟨below, begins⟩ := exists_stack_cons loose next groups
          have some : stack loose (next :: groups) ≠ [] := by
            rw [begins]
            simp [Ne.symm filled.2.1]
          rw [stack_cons_cons, List.getLast?_append, List.getLast?_append,
            List.getLast?_eq_some_getLast some, Option.some_or, Option.some_or,
            ← List.getLast?_eq_some_getLast some] at last
          obtain ⟨found, member, ends⟩ := ih filled.2 last
          exact ⟨found, List.mem_cons_of_mem _ (List.mem_cons.2 member), ends⟩

/-- The texts of blocks, joined as a list joins them, are a stack. -/
theorem lines_joinWith_gap (tight : Bool) {pieces : List Text} (some : pieces ≠ []) :
    lines (joinWith (Render.gap tight) pieces) = stack (!tight) (pieces.map lines) := by
  induction pieces with
  | nil => exact absurd rfl some
  | cons piece rest ih =>
      cases rest with
      | nil => rfl
      | cons next rest =>
          have step := ih (by simp)
          cases tight with
          | true =>
              simp only [joinWith, Render.gap, if_true, List.append_assoc, List.cons_append,
                List.nil_append, lines_append_newline] at step ⊢
              simp [stack, step]
          | false =>
              simp only [joinWith, Render.gap, Bool.false_eq_true, if_false, List.append_assoc,
                List.cons_append, List.nil_append, lines_append_newline, lines_newline] at step ⊢
              simp [stack, step]

/-! ## Leads -/

theorem dropRightWhile_sublist (drop : Char → Bool) (t : Text) :
    (dropRightWhile drop t).Sublist t := by
  induction t with
  | nil => exact .slnil
  | cons c t ih =>
      cases kept : dropRightWhile drop t with
      | nil => by_cases out : drop c = true <;> simp [dropRightWhile, kept, out]
      | cons d rest =>
          rw [kept] at ih
          simpa [dropRightWhile, kept] using ih

theorem not_mem_leadLine {lead line : Text} (freeLead : '\n' ∉ lead) (free : '\n' ∉ line) :
    '\n' ∉ leadLine lead line := by
  unfold leadLine
  split
  · exact fun member => freeLead ((dropRightWhile_sublist _ _).subset member)
  · simp [freeLead, free]

theorem lines_indentAll {lead : Text} (free : '\n' ∉ lead) (t : Text) :
    lines (indentAll lead t) = (lines t).map (leadLine lead) := by
  refine lines_unlines (by simpa using lines_ne_nil t) fun line member => ?_
  obtain ⟨old, oldMember, rfl⟩ := List.mem_map.1 member
  exact not_mem_leadLine free (not_mem_of_mem_lines oldMember)

/-- Lines after a lead, where the first one has a lead of its own. -/
def leadFrom (first lead : Text) : List Text → List Text
  | [] => []
  | line :: rest => leadLine first line :: rest.map (leadLine lead)

theorem mem_leadFrom {first lead : Text} {texts : List Text} {row : Text}
    (member : row ∈ leadFrom first lead texts) :
    (∃ line, texts.head? = some line ∧ row = leadLine first line) ∨
      ∃ line ∈ texts, row = leadLine lead line := by
  cases texts with
  | nil => cases member
  | cons line rest =>
      rcases List.mem_cons.1 member with rfl | member
      · exact .inl ⟨line, rfl, rfl⟩
      · obtain ⟨old, oldMember, rfl⟩ := List.mem_map.1 member
        exact .inr ⟨old, List.mem_cons_of_mem _ oldMember, rfl⟩

/-- The last line follows the common lead, unless it is the first one too. -/
theorem getLast?_leadFrom {first lead : Text} {texts : List Text} {row : Text}
    (last : (leadFrom first lead texts).getLast? = some row) :
    (∃ line, texts.head? = some line ∧ row = leadLine first line) ∨
      ∃ line, texts.getLast? = some line ∧ row = leadLine lead line := by
  cases texts with
  | nil => cases last
  | cons line rest =>
      cases rest with
      | nil => exact .inl ⟨line, rfl, by simpa [leadFrom] using last.symm⟩
      | cons next rest =>
          rw [leadFrom, List.map_cons, List.getLast?_cons_cons, ← List.map_cons, List.getLast?_map] at last
          obtain ⟨old, ends, rfl⟩ := Option.map_eq_some_iff.1 last
          exact .inr ⟨old, by rw [List.getLast?_cons_cons, ends], rfl⟩

theorem lines_indentFrom {first lead : Text} (freeFirst : '\n' ∉ first) (free : '\n' ∉ lead)
    (t : Text) : lines (indentFrom first lead t) = leadFrom first lead (lines t) := by
  have each := @not_mem_of_mem_lines t
  unfold indentFrom
  cases split : lines t with
  | nil => exact absurd split (lines_ne_nil t)
  | cons line rest =>
      rw [split] at each
      refine lines_unlines (by simp) fun l member => ?_
      rcases List.mem_cons.1 member with rfl | member
      · exact not_mem_leadLine freeFirst (each (List.mem_cons_self ..))
      · obtain ⟨old, oldMember, rfl⟩ := List.mem_map.1 member
        exact not_mem_leadLine free (each (List.mem_cons_of_mem _ oldMember))

end DocComment.Text

namespace DocComment

/-! ## Rendering, node by node -/

theorem renderAll_eq (nodes : List Node) : renderAll nodes = nodes.map Node.render := by
  induction nodes with
  | nil => rfl
  | cons node nodes ih => rw [renderAll, ih, List.map_cons]

theorem renderInlines_eq (nodes : List Node) : renderInlines nodes = nodes.flatMap Node.render := by
  rw [renderInlines, renderAll_eq, List.flatMap_def]

theorem renderItems_eq (nodes : List Node) :
    renderItems nodes = nodes.map fun node => (node.markup, renderAll node.children) := by
  induction nodes with
  | nil => rfl
  | cons node nodes ih =>
      obtain ⟨kind, children, content, markup, info, attrs, traits, range⟩ := node
      rw [renderItems, ih, List.map_cons]

theorem Node.render_list {node : Node} (list : node.kind.isList = true) :
    node.render = Render.assembleList node (renderItems node.children) := by
  obtain ⟨kind, children, content, markup, info, attrs, traits, range⟩ := node
  rw [Node.render, if_pos list]

theorem Node.render_other {node : Node} (other : node.kind.isList = false) :
    node.render = Render.assemble node (renderAll node.children) := by
  obtain ⟨kind, children, content, markup, info, attrs, traits, range⟩ := node
  rw [Node.render, if_neg (by rw [other]; simp)]

end DocComment
