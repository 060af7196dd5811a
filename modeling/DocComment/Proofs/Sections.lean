/- The sections of a document by index. Splitting goes through the blocks once, from state to state, and
knows the extent of the discussion only at the last block. The same split can be read off from the left and
stop where the discussion begins (`scan`), since from there on no state changes it (`foldl_discussion`,
`foldl_past`). So it has a closed form: the abstract is the first block that is not HTML, if that is a
paragraph, and the discussion begins at the next such block (`ofBlocks_eq`). Every block is skipped, or the
abstract, or in the discussion, and only one of these (`existsUnique_part`).

The model of a document is this abstract together with the harvest of exactly the blocks of the
discussion; a reading that ends with the abstract does not look at them (`ofDocument_sections`). -/
import DocComment.Documentation
import DocComment.Proofs.Refusal

namespace DocComment

set_option autoImplicit false

namespace Split

/-- Whether a block counts when the sections are looked for. -/
def isVisible (block : Node) : Bool := block.kind != .htmlBlock

/-- The index of the first block that counts, from an index on. -/
def visible? (blocks : List Node) (n : Nat) : Option Nat :=
  ((blocks.drop n).findIdx? isVisible).map (n + ·)

def abstractIndex? (blocks : List Node) : Option Nat :=
  (visible? blocks 0).filter fun f => (blocks[f]?).any fun block => block.kind == .paragraph

def discussionIndex? (blocks : List Node) : Option Nat :=
  match abstractIndex? blocks with
  | some f => visible? blocks (f + 1)
  | none => visible? blocks 0

def abstractOf (blocks : List Node) : Option (List Text) :=
  (abstractIndex? blocks).bind fun f => (blocks[f]?).map fun block => abstractEntries block.children

def discussionOf (blocks : List Node) : List Node :=
  match discussionIndex? blocks with
  | none => []
  | some d => blocks.drop d

end Split

/-! ## The pass over the blocks -/

namespace Splitter

variable {upTo : Section} {last index : Nat} {s : Splitter} {block : Node}

/-- A state past the section up to which is read stays as it is. -/
theorem step_past (past : upTo.rank < s.current.rank) (indexed : Node × Nat) :
    step upTo last s indexed = s := by
  rw [step, if_pos (.inr past)]

theorem foldl_past (past : upTo.rank < s.current.rank) (blocks : List (Node × Nat)) :
    blocks.foldl (step upTo last) s = s := by
  induction blocks with
  | nil => rfl
  | cons block blocks ih => rw [List.foldl_cons, step_past past, ih]

theorem not_past (reads : upTo.includesDiscussion = true) (here : s.current ≠ .ending) :
    ¬ (s.current = .ending ∨ upTo.rank < s.current.rank) := by
  rintro (ends | past)
  · exact here ends
  · cases upTo <;> cases current : s.current <;>
      simp_all [Section.includesDiscussion, Section.rank]

theorem step_discussion (reads : upTo.includesDiscussion = true) (here : s.current = .discussion) :
    step upTo last s (block, index) = s.discuss last index := by
  rw [step, if_neg (not_past reads (by simp [here]))]
  simp only [here]

theorem discuss_last : (s.discuss index index).result =
    { abstract := s.result.abstract, discussion := some (s.start.getD index, index + 1) } := by
  simp only [discuss, if_true]

theorem discuss_before (before : index ≠ last) : (s.discuss last index).result = s.result := by
  simp only [discuss, if_neg before]

/-- Inside the discussion only the last block of the document changes the result. -/
theorem foldl_discussion (reads : upTo.includesDiscussion = true) (here : s.current = .discussion)
    (blocks : List Node) (ends : index + blocks.length = last) :
    (((block :: blocks).zipIdx index).foldl (step upTo last) s).result =
      { abstract := s.result.abstract, discussion := some (s.start.getD index, last + 1) } := by
  induction blocks generalizing index s block with
  | nil =>
      rw [List.length_nil, Nat.add_zero] at ends
      rw [List.zipIdx_singleton, List.foldl_cons, List.foldl_nil, step_discussion reads here, ends,
        discuss_last]
  | cons next blocks ih =>
      rw [List.length_cons] at ends
      have before : index ≠ last := by omega
      have rest := @ih (index + 1) (s.discuss last index) next here (by omega)
      rw [discuss_before before] at rest
      rw [List.zipIdx_cons, List.foldl_cons, step_discussion reads here, rest]
      rfl

/-- Before the discussion every block is looked at. One that is neither the abstract nor HTML is looked at as
in the discussion. -/
theorem step_abstract (atAbstract : s.current = .abstract) :
    step upTo last s (block, index) =
      if s.result.abstract.isNone && block.kind == .paragraph then
        { s with result := { s.result with abstract := some (abstractEntries block.children) } }
      else if block.kind = .htmlBlock then s
      else step upTo last { s with current := .discussion } (block, index) := by
  have looks : ¬ (s.current = .ending ∨ upTo.rank < s.current.rank) := by
    simp [atAbstract, Section.rank]
  rw [step, if_neg looks]
  simp only [atAbstract]
  cases upTo <;> rfl

end Splitter

namespace Split

/-- Splits the blocks from an index on, after an abstract that may have been found, and stops where the
discussion begins. -/
def scan (upTo : Section) (index : Nat) (abstract : Option (List Text)) : List Node → Split
  | [] => { abstract }
  | block :: rest =>
    if abstract.isNone && block.kind == .paragraph then
      Split.scan upTo (index + 1) (some (abstractEntries block.children)) rest
    else if block.kind = .htmlBlock then Split.scan upTo (index + 1) abstract rest
    else if upTo.includesDiscussion then
      { abstract, discussion := some (index, index + (rest.length + 1)) }
    else { abstract }

/-- **The pass may stop where the discussion begins.** -/
theorem foldl_step_eq_scan (upTo : Section) (last index : Nat) (abstract : Option (List Text))
    (blocks : List Node) (ends : index + blocks.length = last + 1 ∨ blocks = []) :
    ((blocks.zipIdx index).foldl (Splitter.step upTo last) { result := { abstract } }).result =
      Split.scan upTo index abstract blocks := by
  induction blocks generalizing index abstract with
  | nil => rfl
  | cons block blocks ih =>
      have bound : index + blocks.length = last := by simpa [← Nat.add_assoc] using ends
      have more : index + 1 + blocks.length = last + 1 ∨ blocks = [] := by omega
      rw [Split.scan, List.zipIdx_cons, List.foldl_cons, Splitter.step_abstract rfl]
      split
      · exact ih (index + 1) _ more
      split
      · exact ih (index + 1) _ more
      rw [← List.foldl_cons, ← List.zipIdx_cons]
      split
      · rename_i reads
        rw [Splitter.foldl_discussion reads rfl blocks bound]
        simp [← bound, Nat.add_assoc]
      · rename_i reads
        rw [Splitter.foldl_past]
        cases upTo <;> simp_all [Section.includesDiscussion, Section.rank]

theorem ofBlocks_eq_scan (upTo : Section) (blocks : List Node) :
    Split.ofBlocks upTo blocks = Split.scan upTo 0 none blocks := by
  apply foldl_step_eq_scan
  cases blocks with
  | nil => exact .inr rfl
  | cons block blocks => left; simp

/-! ## The closed form -/

theorem visible?_cons (block : Node) (blocks : List Node) :
    visible? (block :: blocks) 0 =
      if block.kind = .htmlBlock then (visible? blocks 0).map (· + 1) else some 0 := by
  by_cases html : block.kind = .htmlBlock
  · simp [visible?, List.findIdx?_cons, isVisible, html, Function.comp_def]
  · simp [visible?, List.findIdx?_cons, isVisible, html]

theorem visible?_cons_succ (block : Node) (blocks : List Node) (n : Nat) :
    visible? (block :: blocks) (n + 1) = (visible? blocks n).map (· + 1) := by
  simp only [visible?, List.drop_succ_cons, Option.map_map]
  congr 1
  funext k
  exact Nat.add_right_comm n 1 k

/-- An HTML block before all others changes indexes and nothing else. -/
theorem abstractIndex?_html {block : Node} (html : block.kind = .htmlBlock) (blocks : List Node) :
    abstractIndex? (block :: blocks) = (abstractIndex? blocks).map (· + 1) := by
  unfold abstractIndex?
  rw [visible?_cons, if_pos html]
  cases visible? blocks 0 with
  | none => rfl
  | some f =>
      cases paragraph : (blocks[f]?).any fun b => b.kind == .paragraph <;>
        simp [Option.filter, paragraph]

theorem discussionIndex?_html {block : Node} (html : block.kind = .htmlBlock) (blocks : List Node) :
    discussionIndex? (block :: blocks) = (discussionIndex? blocks).map (· + 1) := by
  unfold discussionIndex?
  rw [abstractIndex?_html html]
  cases abstractIndex? blocks with
  | none => simp [visible?_cons, html]
  | some f => simp [visible?_cons_succ]

theorem abstractOf_html {block : Node} (html : block.kind = .htmlBlock) (blocks : List Node) :
    abstractOf (block :: blocks) = abstractOf blocks := by
  unfold abstractOf
  rw [abstractIndex?_html html]
  cases abstractIndex? blocks <;> rfl

/-- After the abstract only the first block that counts is looked for. -/
theorem scan_some (upTo : Section) (index : Nat) (entries : List Text) (blocks : List Node) :
    Split.scan upTo index (some entries) blocks =
      { abstract := some entries
        discussion :=
          if upTo.includesDiscussion then
            (visible? blocks 0).map fun d => (index + d, index + blocks.length)
          else none } := by
  induction blocks generalizing index with
  | nil => cases upTo <;> rfl
  | cons block blocks ih =>
      rw [Split.scan, visible?_cons]
      by_cases html : block.kind = .htmlBlock
      · rw [if_pos html, if_pos html, ih]
        cases upTo.includesDiscussion <;>
          simp [html, Function.comp_def, Nat.add_assoc, Nat.add_comm 1]
      · cases reads : upTo.includesDiscussion <;> simp [html]

/-- **The sections from an index on.** -/
theorem scan_none (upTo : Section) (index : Nat) (blocks : List Node) :
    Split.scan upTo index none blocks =
      { abstract := abstractOf blocks
        discussion :=
          if upTo.includesDiscussion then
            (discussionIndex? blocks).map fun d => (index + d, index + blocks.length)
          else none } := by
  induction blocks generalizing index with
  | nil => cases upTo <;> rfl
  | cons block blocks ih =>
      rw [Split.scan]
      by_cases html : block.kind = .htmlBlock
      · rw [abstractOf_html html, discussionIndex?_html html, ih]
        cases upTo.includesDiscussion <;>
          simp [html, Function.comp_def, Nat.add_assoc, Nat.add_comm 1]
      have first : visible? (block :: blocks) 0 = some 0 := by rw [visible?_cons, if_neg html]
      by_cases paragraph : block.kind = .paragraph
      · have here : abstractIndex? (block :: blocks) = some 0 := by
          simp [abstractIndex?, first, paragraph]
        rw [scan_some]
        cases upTo.includesDiscussion <;>
          simp [paragraph, abstractOf, discussionIndex?, here, visible?_cons_succ, Function.comp_def,
            Nat.add_assoc, Nat.add_comm 1]
      · have none : abstractIndex? (block :: blocks) = none := by
          simp [abstractIndex?, first, paragraph]
        cases reads : upTo.includesDiscussion <;>
          simp [html, paragraph, abstractOf, discussionIndex?, none, first]

/-- **Splitting by index.** -/
theorem ofBlocks_eq (upTo : Section) (blocks : List Node) :
    Split.ofBlocks upTo blocks =
      { abstract := abstractOf blocks
        discussion :=
          if upTo.includesDiscussion then
            (discussionIndex? blocks).map fun d => (d, blocks.length)
          else none } := by
  rw [ofBlocks_eq_scan, scan_none]
  simp

theorem discussionBlocks_ofBlocks {upTo : Section} (reads : upTo.includesDiscussion = true)
    (blocks : List Node) :
    (Split.ofBlocks upTo blocks).discussionBlocks blocks = discussionOf blocks := by
  rw [ofBlocks_eq, reads, if_pos rfl]
  cases start : discussionIndex? blocks with
  | none => simp [discussionBlocks, discussionOf, start]
  | some d => simp [discussionBlocks, discussionOf, start]

/-! ## What each block is -/

/-- What a block is to the sections of its document. -/
inductive Part where
  /-- HTML around the abstract. -/
  | skipped
  | abstract
  | discussion
  deriving DecidableEq, Repr

/-- Whether the block with an index is a given part. -/
def IsPart (blocks : List Node) (i : Nat) : Part → Prop
  | .skipped => (∃ block, blocks[i]? = some block ∧ block.kind = .htmlBlock) ∧
      ∀ d, discussionIndex? blocks = some d → i < d
  | .abstract => abstractIndex? blocks = some i
  | .discussion => ∃ d, discussionIndex? blocks = some d ∧ d ≤ i

theorem le_of_visible? {blocks : List Node} {n f : Nat} (first : visible? blocks n = some f) : n ≤ f := by
  obtain ⟨k, -, rfl⟩ := Option.map_eq_some_iff.1 first
  exact Nat.le_add_right n k

/-- Before the first block that counts there is only HTML. -/
theorem html_of_before {blocks : List Node} {n i : Nat} {block : Node}
    (before : ∀ f, visible? blocks n = some f → i < f) (from_ : n ≤ i)
    (found : blocks[i]? = some block) : block.kind = .htmlBlock := by
  have shifted : (blocks.drop n)[i - n]? = some block := by
    rw [List.getElem?_drop, Nat.add_sub_cancel' from_, found]
  have hidden : isVisible block = false := by
    cases first : (blocks.drop n).findIdx? isVisible with
    | none => exact List.findIdx?_eq_none_iff.1 first block (List.mem_of_getElem? shifted)
    | some k =>
        obtain ⟨_, _, earlier⟩ := List.findIdx?_eq_some_iff_getElem.1 first
        have less : i < n + k := before (n + k) (by simp [visible?, first])
        obtain ⟨bound, here⟩ := List.getElem?_eq_some_iff.1 shifted
        simpa [here] using earlier (i - n) (by omega)
  simpa [isVisible] using hidden

theorem paragraph_of_abstractIndex? {blocks : List Node} {f : Nat}
    (index : abstractIndex? blocks = some f) :
    visible? blocks 0 = some f ∧ ∃ block, blocks[f]? = some block ∧ block.kind = .paragraph := by
  obtain ⟨first, paragraph⟩ := Option.filter_eq_some_iff.1 index
  refine ⟨first, ?_⟩
  simpa [Option.any_eq_true] using paragraph

/-- What is neither the abstract nor in the discussion is HTML. -/
theorem html_of_skipped {blocks : List Node} {i : Nat} {block : Node}
    (found : blocks[i]? = some block) (other : abstractIndex? blocks ≠ some i)
    (before : ∀ d, discussionIndex? blocks = some d → i < d) : block.kind = .htmlBlock := by
  unfold discussionIndex? at before
  cases index : abstractIndex? blocks with
  | none =>
      rw [index] at before
      exact html_of_before before (Nat.zero_le i) found
  | some f =>
      rw [index] at before other
      obtain ⟨first, -⟩ := paragraph_of_abstractIndex? index
      rcases Nat.lt_or_ge i f with less | more
      · refine html_of_before (fun g same => ?_) (Nat.zero_le i) found
        rw [first] at same
        cases same
        exact less
      · have ne : i ≠ f := fun same => other (congrArg some same.symm)
        exact html_of_before before (by omega) found

/-- **Every block is one part of the document and no other.** -/
theorem existsUnique_part {blocks : List Node} {i : Nat} {block : Node}
    (found : blocks[i]? = some block) : ∃ part, IsPart blocks i part ∧
      ∀ other, IsPart blocks i other → other = part := by
  have abstractBefore : ∀ d, abstractIndex? blocks = some i → discussionIndex? blocks = some d → i < d := by
    intro d index start
    rw [discussionIndex?, index] at start
    exact le_of_visible? start
  by_cases later : ∃ d, discussionIndex? blocks = some d ∧ d ≤ i
  · refine ⟨.discussion, later, fun other isOther => ?_⟩
    obtain ⟨d, start, reached⟩ := later
    cases other with
    | skipped => exact absurd (isOther.2 d start) (by omega)
    | abstract => exact absurd (abstractBefore d isOther start) (by omega)
    | discussion => rfl
  have before : ∀ d, discussionIndex? blocks = some d → i < d := fun d start =>
    Nat.lt_of_not_le fun reached => later ⟨d, start, reached⟩
  by_cases index : abstractIndex? blocks = some i
  · refine ⟨.abstract, index, fun other isOther => ?_⟩
    cases other with
    | skipped =>
        obtain ⟨-, paragraph, here, isParagraph⟩ := paragraph_of_abstractIndex? index
        obtain ⟨⟨html, also, isHtml⟩, -⟩ := isOther
        rw [here] at also
        cases also
        rw [isParagraph] at isHtml
        cases isHtml
    | abstract => rfl
    | discussion => exact absurd isOther later
  · refine ⟨.skipped, ⟨⟨block, found, html_of_skipped found index before⟩, before⟩, fun other isOther => ?_⟩
    cases other with
    | skipped => rfl
    | abstract => exact absurd isOther index
    | discussion => exact absurd isOther later

end Split

/-- Where the discussion is read, the model is the abstract with the harvest of the discussion. -/
theorem Documentation.ofDocument_eq {upTo : Section} (reads : upTo.includesDiscussion = true)
    (document : Node) :
    Documentation.ofDocument upTo document =
      (harvest (Split.discussionOf document.children)).map fun h =>
        { abstract := Split.abstractOf document.children
          discussion := h.discussion
          tags := some h.table } := by
  rw [Documentation.ofDocument, reads, if_pos rfl, Split.discussionBlocks_ofBlocks reads,
    Split.ofBlocks_eq]
  cases harvest (Split.discussionOf document.children) <;> rfl

/-- **The sections of a document and its model.** Where the abstract is and where the discussion begins
does not depend on how far the document is read; a reading that ends with the abstract reports no
discussion. Every block is skipped HTML, the abstract or in the discussion. Read up to the discussion or
to the end, the model is the abstract with the harvest of the discussion; read up to the abstract, it is
the abstract alone, whatever the discussion holds. -/
theorem ofDocument_sections (document : Node) :
    (∀ upTo, Split.ofBlocks upTo document.children =
      { abstract := Split.abstractOf document.children
        discussion :=
          match upTo with
          | .abstract => none
          | .discussion | .ending =>
            (Split.discussionIndex? document.children).map fun d => (d, document.children.length) }) ∧
    (∀ i block, document.children[i]? = some block →
      ∃ part, Split.IsPart document.children i part ∧
        ∀ other, Split.IsPart document.children i other → other = part) ∧
    (∀ upTo, Documentation.ofDocument upTo document =
      match upTo with
      | .abstract => .ok { abstract := Split.abstractOf document.children }
      | .discussion | .ending =>
        (harvest (Split.discussionOf document.children)).map fun h =>
          { abstract := Split.abstractOf document.children
            discussion := h.discussion
            tags := some h.table }) := by
  refine ⟨fun upTo => ?_, fun i block found => Split.existsUnique_part found, fun upTo => ?_⟩
  · rw [Split.ofBlocks_eq]
    cases upTo <;> rfl
  · cases upTo with
    | abstract => rw [Documentation.ofDocument, Split.ofBlocks_eq]; rfl
    | discussion => exact Documentation.ofDocument_eq rfl document
    | ending => exact Documentation.ofDocument_eq rfl document

/-- An abstract between HTML blocks, and a discussion that cannot be harvested. -/
def refusedDocument : Node :=
  Node.document
    ([{ kind := .htmlBlock }, Node.paragraph [Node.plain ['A']] none, { kind := .htmlBlock }] ++
      responseBlocks (List.replicate (digitLimit + 1) '1'))

/-- The abstract of a document can be read even where its discussion is refused. -/
theorem ofDocument_refusedDocument :
    Documentation.ofDocument .abstract refusedDocument = .ok { abstract := some [['A']] } ∧
      Documentation.ofDocument .ending refusedDocument = .error (.tooLong 4301) := by
  obtain ⟨-, -, model⟩ := ofDocument_sections refusedDocument
  have digits : Text.IsDigits (List.replicate (digitLimit + 1) '1') :=
    Text.isDigits_replicate (by decide) (by decide)
  have refused := harvest_responseBlocks_of_long digits (by rw [List.length_replicate]; omega)
  rw [List.length_replicate] at refused
  refine ⟨model .abstract, (model .ending).trans ?_⟩
  have blocks : Split.discussionOf refusedDocument.children =
      responseBlocks (List.replicate (digitLimit + 1) '1') := rfl
  simp only [blocks, refused]
  rfl

end DocComment
