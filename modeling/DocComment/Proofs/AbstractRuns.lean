/- The entries of an abstract as runs. The inlines of its paragraph can be cut in one way only into runs of
plain text that are as long as possible and single inlines of other kinds (`existsUnique_runs`). The entries
are what these groups are rendered as, so that no text is lost (`abstractEntries_runs`). -/
import DocComment.Proofs.Lines
import DocComment.Section
import Mathlib.Data.List.SplitBy

namespace DocComment

set_option autoImplicit false

def isPlainRun (inlines : List Node) : Bool := inlines.all fun node => node.kind.isText

/-- Whether two neighbours belong to one run of plain text. -/
def joins (node next : Node) : Bool := node.kind.isText && next.kind.isText

/-- Inlines in groups: a group is a run of plain text or one other inline, and two neighbouring groups are
not both plain text. -/
structure Runs (groups : List (List Node)) (inlines : List Node) : Prop where
  flatten : groups.flatten = inlines
  filled : [] ∉ groups
  each : ∀ group ∈ groups, isPlainRun group = true ∨ ∃ node, group = [node]
  maximal : groups.IsChain fun group next => (isPlainRun group && isPlainRun next) = false

namespace Runs

variable {groups : List (List Node)} {inlines : List Node}

/-- A group with plain text in it is a run of plain text. -/
theorem isPlainRun_of_mem (runs : Runs groups inlines) {group : List Node} (listed : group ∈ groups)
    {node : Node} (member : node ∈ group) (text : node.kind.isText = true) :
    isPlainRun group = true := by
  rcases runs.each group listed with plain | ⟨only, rfl⟩
  · exact plain
  · obtain rfl := List.mem_singleton.mp member
    simpa [isPlainRun] using text

theorem isChain_of_mem (runs : Runs groups inlines) {group : List Node} (listed : group ∈ groups) :
    group.IsChain fun node next => joins node next = true := by
  rcases runs.each group listed with plain | ⟨only, rfl⟩
  · rw [List.isChain_iff_getElem]
    intro i below
    have text := List.all_eq_true.mp plain
    rw [joins, text _ (List.getElem_mem _), text _ (List.getElem_mem _)]
    rfl
  · exact List.isChain_singleton only

/-- Runs are the groups in which neighbours join. -/
theorem eq_splitBy (runs : Runs groups inlines) : inlines.splitBy joins = groups := by
  refine List.splitBy_eq_iff.mpr
    ⟨runs.flatten.symm, runs.filled, fun group listed => runs.isChain_of_mem listed, ?_⟩
  rw [List.isChain_iff_getElem]
  intro i below
  have first : groups[i] ∈ groups := List.getElem_mem _
  have second : groups[i + 1] ∈ groups := List.getElem_mem _
  refine ⟨fun empty => runs.filled (empty ▸ first), fun empty => runs.filled (empty ▸ second), ?_⟩
  have apart := List.isChain_iff_getElem.mp runs.maximal i below
  apply Bool.eq_false_iff.mpr
  intro joined
  obtain ⟨left, right⟩ := Bool.and_eq_true_iff.mp joined
  rw [runs.isPlainRun_of_mem first (List.getLast_mem _) left,
    runs.isPlainRun_of_mem second (List.head_mem _) right] at apart
  cases apart

theorem head_of_cons {group : List Node} {others : List (List Node)} {next : Node} {rest : List Node}
    (runs : Runs (group :: others) (next :: rest)) : ∃ tail, group = next :: tail := by
  cases group with
  | nil => exact absurd List.mem_cons_self runs.filled
  | cons first tail =>
      obtain ⟨rfl, -⟩ := List.cons.inj runs.flatten
      exact ⟨tail, rfl⟩

theorem isPlainRun_cons (node : Node) (group : List Node) :
    isPlainRun (node :: group) = (node.kind.isText && isPlainRun group) := List.all_cons

section Step

variable {node next : Node} {rest group : List Node} {others : List (List Node)}

/-- Plain text before plain text lengthens its run. -/
theorem extend (runs : Runs (group :: others) (next :: rest)) (joined : joins node next = true) :
    Runs ((node :: group) :: others) (node :: next :: rest) := by
  obtain ⟨text, nextText⟩ := Bool.and_eq_true_iff.mp joined
  obtain ⟨tail, rfl⟩ := runs.head_of_cons
  have plain := runs.isPlainRun_of_mem List.mem_cons_self List.mem_cons_self nextText
  have same : isPlainRun (node :: next :: tail) = isPlainRun (next :: tail) := by
    rw [isPlainRun_cons, text, Bool.true_and]
  refine ⟨?_, ?_, ?_, ?_⟩
  · rw [List.flatten_cons, List.cons_append, ← runs.flatten, List.flatten_cons]
  · intro empty
    rcases List.mem_cons.mp empty with first | later
    · cases first
    · exact runs.filled (List.mem_cons_of_mem _ later)
  · intro other listed
    rcases List.mem_cons.mp listed with rfl | later
    · exact .inl (same.trans plain)
    · exact runs.each other (List.mem_cons_of_mem _ later)
  · obtain ⟨head, chain⟩ := List.isChain_cons.mp runs.maximal
    refine List.isChain_cons.mpr ⟨fun other first => ?_, chain⟩
    rw [same]
    exact head other first

/-- All else before a group is a group of its own. -/
theorem start (runs : Runs (group :: others) (next :: rest)) (apart : joins node next = false) :
    Runs ([node] :: group :: others) (node :: next :: rest) := by
  refine ⟨?_, ?_, ?_, ?_⟩
  · rw [List.flatten_cons, runs.flatten, List.singleton_append]
  · intro empty
    rcases List.mem_cons.mp empty with first | later
    · cases first
    · exact runs.filled later
  · intro other listed
    rcases List.mem_cons.mp listed with rfl | later
    · exact .inr ⟨node, rfl⟩
    · exact runs.each other later
  · refine List.isChain_cons_cons.mpr ⟨?_, runs.maximal⟩
    obtain ⟨tail, rfl⟩ := runs.head_of_cons
    cases text : node.kind.isText with
    | false => rw [isPlainRun_cons, text, Bool.false_and, Bool.false_and]
    | true =>
        rw [joins, text, Bool.true_and] at apart
        rw [isPlainRun_cons next, apart, Bool.false_and, Bool.and_false]

end Step

end Runs

/-- Before other inlines an inline is joined to their first entry, or it is an entry. -/
theorem abstractEntries_cons (node : Node) {next : Node} {rest : List Node} {entry : Text}
    {entries : List Text} (later : abstractEntries (next :: rest) = entry :: entries) :
    abstractEntries (node :: next :: rest) =
      if joins node next then (node.render ++ entry) :: entries else node.render :: entry :: entries := by
  rw [abstractEntries, later]
  rfl

/-- Each step of reading the entries joins an inline to the first group or makes it a group of its own. -/
theorem exists_runs (inlines : List Node) :
    ∃ groups, Runs groups inlines ∧ abstractEntries inlines = groups.map renderInlines := by
  induction inlines with
  | nil => exact ⟨[], ⟨rfl, List.not_mem_nil, by simp, .nil⟩, rfl⟩
  | cons node rest ih =>
      cases rest with
      | nil =>
          refine ⟨[[node]], ⟨rfl, by simp, ?_, List.isChain_singleton _⟩, ?_⟩
          · intro group listed
            exact .inr ⟨node, List.mem_singleton.mp listed⟩
          · simp [abstractEntries, renderInlines_eq]
      | cons next rest =>
          obtain ⟨groups, runs, entries⟩ := ih
          cases groups with
          | nil => cases runs.flatten
          | cons group others =>
              rw [abstractEntries_cons node entries]
              cases joined : joins node next with
              | true => exact ⟨_, runs.extend joined, rfl⟩
              | false =>
                  have alone : renderInlines [node] = node.render := by
                    rw [renderInlines_eq, List.flatMap_singleton]
                  refine ⟨_, runs.start joined, ?_⟩
                  rw [List.map_cons, alone]
                  rfl

/-- Inlines have runs, and no other ones. -/
theorem existsUnique_runs (inlines : List Node) : ∃! groups, Runs groups inlines := by
  obtain ⟨groups, runs, -⟩ := exists_runs inlines
  refine ⟨groups, runs, fun others same => ?_⟩
  exact same.eq_splitBy.symm.trans runs.eq_splitBy

theorem flatten_abstractEntries (inlines : List Node) :
    (abstractEntries inlines).flatten = renderInlines inlines := by
  obtain ⟨groups, runs, entries⟩ := exists_runs inlines
  have each : renderInlines = List.flatMap Node.render := funext renderInlines_eq
  rw [entries, ← runs.flatten, each]
  calc (groups.map (List.flatMap Node.render)).flatten
      = groups.flatMap (List.flatMap Node.render) := (List.flatMap_def ..).symm
    _ = (groups.flatMap id).flatMap Node.render := List.flatMap_assoc.symm
    _ = groups.flatten.flatMap Node.render := by rw [List.flatMap_id]

theorem abstractEntries_eq_nil_iff (inlines : List Node) : abstractEntries inlines = [] ↔ inlines = [] := by
  obtain ⟨groups, runs, entries⟩ := exists_runs inlines
  rw [entries, List.map_eq_nil_iff]
  constructor
  · rintro rfl
    exact runs.flatten.symm
  · rintro rfl
    exact runs.eq_splitBy.symm

/-- **The abstract keeps all its text, with one entry for each run.** The inlines of a paragraph have one
division into runs, the entries are its groups rendered one by one, and together they are the text of the
paragraph. Only a paragraph without inlines has no entries. -/
theorem abstractEntries_runs {paragraph : Node} (kind : paragraph.kind = .paragraph) :
    (abstractEntries paragraph.children).flatten = paragraph.render ∧
      (∃! groups, Runs groups paragraph.children) ∧
      (∀ groups, Runs groups paragraph.children →
        abstractEntries paragraph.children = groups.map renderInlines) ∧
      (abstractEntries paragraph.children = [] ↔ paragraph.children = []) := by
  refine ⟨?_, existsUnique_runs _, fun groups runs => ?_, abstractEntries_eq_nil_iff _⟩
  · rw [flatten_abstractEntries, Node.render_other (by rw [kind]; rfl), Render.assemble, kind]
    rfl
  · obtain ⟨others, same, entries⟩ := exists_runs paragraph.children
    rw [entries, ← same.eq_splitBy, runs.eq_splitBy]

/-- A paragraph with an entity, line breaks and empty texts. -/
def brokenParagraph : Node :=
  Node.paragraph
    [Node.plain "a ".toList, { kind := .special, content := ['&'], markup := "&amp;".toList },
     Node.plain [], { kind := .softBreak }, { kind := .hardBreak }, Node.plain ['b'],
     { kind := .strong, children := [Node.plain ['c']] }, Node.plain [], { kind := .code, content := ['d'] }]
    none

theorem abstractEntries_runs_brokenParagraph :
    ∃ groups, Runs groups brokenParagraph.children ∧
      groups.map renderInlines = ["a &amp;".toList, ['\n'], ['\n'], ['b'], "**c**".toList, [], "`d`".toList] ∧
      (groups.map renderInlines).flatten = brokenParagraph.render := by
  obtain ⟨whole, ⟨groups, runs, -⟩, entries, -⟩ := @abstractEntries_runs brokenParagraph rfl
  rw [entries groups runs] at whole
  refine ⟨groups, runs, ?_, whole⟩
  rw [← entries groups runs]
  decide

end DocComment
