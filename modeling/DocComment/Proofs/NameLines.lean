/- How a line is cut into a name and a content. The colon that separates them is the first one in the plain
text that leads the line; escapes and entities belong to that text, but a colon that is one of them does
not separate. `Colon` is the place of such a colon, and the reader cuts a line there and nowhere else
(`cut?_colon`, `exists_colon`). A line is a tag line exactly if there is such a colon and something other
than blanks stands before it, and no text gets lost: what is written before the colon, the colon, a gap of
spaces and line breaks, and the content make up the line (`line_splits`). -/
import DocComment.Proofs.Blanks
import DocComment.Proofs.Lines
import DocComment.Tag.Line

namespace DocComment

set_option autoImplicit false

/-! ## Plain text and line breaks as they are rendered -/

theorem Node.render_text {node : Node} (text : node.kind = .text) : node.render = node.content := by
  rw [Node.render_other (by rw [text]; rfl), Render.assemble, text]

theorem Node.render_special {node : Node} (special : node.kind = .special) :
    node.render = if node.markup.isEmpty then node.content else node.markup := by
  rw [Node.render_other (by rw [special]; rfl), Render.assemble, special]

theorem Node.render_break {node : Node} (isBreak : NameLine.isBreak node = true) :
    node.render = ['\n'] := by
  have kind : node.kind = .softBreak ∨ node.kind = .hardBreak := by
    unfold NameLine.isBreak at isBreak
    split at isBreak <;> simp_all
  rcases kind with soft | hard
  · rw [Node.render_other (by rw [soft]; rfl), Render.assemble, soft]
  · rw [Node.render_other (by rw [hard]; rfl), Render.assemble, hard]

theorem Node.render_paragraph (inlines : List Node) (range : Option Range) :
    (Node.paragraph inlines range).render = renderInlines inlines := rfl

theorem Text.cutAt?_append {sep : Char} {before : Text} (free : sep ∉ before) (after : Text) :
    Text.cutAt? sep (before ++ sep :: after) = some (before, after) := by
  induction before with
  | nil => simp [Text.cutAt?]
  | cons c rest ih =>
      simp only [List.mem_cons, not_or] at free
      simp [Text.cutAt?, Ne.symm free.1, ih free.2]

/-- The text is cut at the first occurrence, so there is none before it. -/
theorem Text.eq_of_cutAt? {sep : Char} {t : Text} {cut : Text × Text}
    (found : Text.cutAt? sep t = some cut) : t = cut.1 ++ sep :: cut.2 ∧ sep ∉ cut.1 := by
  induction t generalizing cut with
  | nil => cases found
  | cons c rest ih =>
      by_cases here : c = sep
      · rw [Text.cutAt?, if_pos here] at found
        cases found
        simp [here]
      · rw [Text.cutAt?, if_neg here] at found
        obtain ⟨later, foundLater, rfl⟩ := Option.map_eq_some_iff.1 found
        obtain ⟨split, free⟩ := ih foundLater
        refine ⟨by rw [split]; rfl, ?_⟩
        simp only [List.mem_cons, not_or]
        exact ⟨Ne.symm here, free⟩

theorem Text.cutAt?_eq_none_iff {sep : Char} {t : Text} : Text.cutAt? sep t = none ↔ sep ∉ t := by
  induction t with
  | nil => simp [Text.cutAt?]
  | cons c rest ih =>
      by_cases here : c = sep
      · simp [Text.cutAt?, here]
      · simp [Text.cutAt?, here, ih, Ne.symm here]

namespace NameLine

/-- Whether an inline may stand before the colon: an escape, an entity, or plain text without a colon. -/
def Leads (node : Node) : Prop := node.kind = .special ∨ (node.kind = .text ∧ ':' ∉ node.content)

instance (node : Node) : Decidable (Leads node) := inferInstanceAs (Decidable (_ ∨ _))

/-- The colon that separates name and content: the first in the plain text that leads a line. -/
structure Colon (inlines : List Node) where
  /-- The inlines before the one that holds the colon. -/
  before : List Node
  holder : Node
  /-- The inlines after the one that holds the colon. -/
  rest : List Node
  /-- The text before the colon in the inline that holds it. -/
  head : Text
  /-- The text after the colon in the inline that holds it. -/
  after : Text
  eq : inlines = before ++ holder :: rest
  leads : ∀ node ∈ before, Leads node
  isText : holder.kind = .text
  content : holder.content = head ++ ':' :: after
  free : ':' ∉ head

namespace Colon

variable {inlines : List Node}

def decoded (colon : Colon inlines) : Text := colon.before.flatMap Node.content ++ colon.head

def written (colon : Colon inlines) : Text := renderInlines colon.before ++ colon.head

def cut (colon : Colon inlines) : Cut where
  before := colon.decoded
  written := colon.written.length
  after := colon.after
  rest := colon.rest

/-- The name and the content of a paragraph in the range, if the name is not blank. -/
def line (colon : Colon inlines) (range : Option Range) : NameLine :=
  let remainder := colon.after.dropWhile (· == ' ')
  { name := Text.trim colon.decoded
    nameRange := range.map fun line =>
      nameRangeIn line (colon.decoded.length - (Text.trimLeft colon.decoded).length : Nat)
        ((colon.written.length : Int) -
          (colon.decoded.length - (Text.trimRight colon.decoded).length : Nat))
    content := Node.paragraph (contentInlines remainder colon.rest) (range.map fun line =>
      contentRangeIn line
        (colon.written.length + (1 + colon.after.length - remainder.length) : Nat)) }

end Colon

/-! ## The cut -/

/-- What leads the line is passed, and its text gathered, up to the first plain text with a colon. -/
theorem cut?_append {before rest : List Node} {holder : Node} {head after : Text}
    (leads : ∀ node ∈ before, Leads node) (isText : holder.kind = .text)
    (content : holder.content = head ++ ':' :: after) (free : ':' ∉ head) :
    cut? (before ++ holder :: rest) = some
      { before := before.flatMap Node.content ++ head
        written := (renderInlines before ++ head).length
        after, rest } := by
  induction before with
  | nil =>
      simp only [List.nil_append, cut?, isText, content, Text.cutAt?_append free after]
      rfl
  | cons node before ih =>
      obtain ⟨first, others⟩ := List.forall_mem_cons.1 leads
      rw [List.cons_append, cut?]
      rcases first with special | ⟨text, colonless⟩
      · have width : writtenLength node = node.render.length := by
          rw [Node.render_special special, writtenLength]
        simp [special, ih others, width, renderInlines_eq]
      · simp [text, Text.cutAt?_eq_none_iff.2 colonless, ih others, renderInlines_eq,
          Node.render_text text]

/-- A line is cut at its colon. -/
theorem cut?_colon {inlines : List Node} (colon : Colon inlines) : cut? inlines = some colon.cut := by
  have found : cut? (colon.before ++ colon.holder :: colon.rest) = some colon.cut :=
    cut?_append colon.leads colon.isText colon.content colon.free
  rw [← colon.eq] at found
  exact found

/-- A line that is cut has a colon. -/
theorem exists_colon {inlines : List Node} (found : (cut? inlines).isSome = true) :
    Nonempty (Colon inlines) := by
  induction inlines with
  | nil => cases found
  | cons node inlines ih =>
      -- One more inline before the colon, if the colon comes later.
      have later (leads : Leads node) (more : (cut? inlines).isSome = true) :
          Nonempty (Colon (node :: inlines)) := by
        obtain ⟨colon⟩ := ih more
        exact ⟨{ colon with
          before := node :: colon.before
          eq := by rw [List.cons_append, ← colon.eq]
          leads := List.forall_mem_cons.2 ⟨leads, colon.leads⟩ }⟩
      rw [cut?] at found
      split at found
      · rename_i special
        exact later (.inl special) (by simpa using found)
      · rename_i text
        cases here : Text.cutAt? ':' node.content with
        | some cut =>
            obtain ⟨split, free⟩ := Text.eq_of_cutAt? here
            exact ⟨{
              before := [], holder := node, rest := inlines, head := cut.1, after := cut.2, eq := rfl
              leads := fun _ member => nomatch member
              isText := text, content := split, free }⟩
        | none =>
            simp only [here] at found
            exact later (.inr ⟨text, Text.cutAt?_eq_none_iff.1 here⟩) (by simpa using found)
      · cases found

/-! ## The line -/

/-- What a paragraph with a colon is read as. -/
theorem ofParagraph?_colon {paragraph : Node} (colon : Colon paragraph.children) :
    ofParagraph? paragraph =
      if colon.decoded.all isBlank then none else some (colon.line paragraph.range) := by
  unfold ofParagraph?
  rw [cut?_colon colon]
  by_cases blank : colon.decoded.all isBlank = true
  · have nameless : Text.trim colon.decoded = [] := Text.trim_eq_nil_iff.2 blank
    simp [Colon.cut, nameless, blank]
  · have named : Text.trim colon.decoded ≠ [] := fun nameless => blank (Text.trim_eq_nil_iff.1 nameless)
    simp [Colon.cut, Colon.line, named, blank]

/-- A paragraph is a tag line exactly if it has such a colon with something before it that is not blank. -/
theorem ofParagraph?_eq_some_iff {paragraph : Node} {line : NameLine} :
    ofParagraph? paragraph = some line ↔
      ∃ colon : Colon paragraph.children,
        colon.decoded.all isBlank = false ∧ line = colon.line paragraph.range := by
  constructor
  · intro read
    have found : (cut? paragraph.children).isSome = true := by
      unfold ofParagraph? at read
      cases shape : cut? paragraph.children with
      | none => simp [shape] at read
      | some cut => rfl
    obtain ⟨colon⟩ := exists_colon found
    rw [ofParagraph?_colon colon] at read
    by_cases blank : colon.decoded.all isBlank = true
    · rw [if_pos blank] at read
      cases read
    · rw [if_neg blank] at read
      exact ⟨colon, by simpa using blank, (Option.some.inj read).symm⟩
  · rintro ⟨colon, filled, rfl⟩
    rw [ofParagraph?_colon colon, filled]
    rfl

/-! ## Nothing is lost -/

/-- A line is what is written before the colon, the colon, and the rest. -/
theorem Colon.renderInlines_eq {inlines : List Node} (colon : Colon inlines) :
    renderInlines inlines = colon.written ++ ':' :: (colon.after ++ renderInlines colon.rest) := by
  have split := congrArg renderInlines colon.eq
  simp only [DocComment.renderInlines_eq, List.flatMap_append, List.flatMap_cons,
    Node.render_text colon.isText, colon.content] at split
  simp [split, Colon.written, DocComment.renderInlines_eq]

/-- Line breaks are rendered as newlines, whether they are soft or hard. -/
theorem renderInlines_dropBreaks (inlines : List Node) :
    ∃ newlines : Nat, renderInlines inlines =
      List.replicate newlines '\n' ++ renderInlines (inlines.dropWhile isBreak) := by
  induction inlines with
  | nil => exact ⟨0, rfl⟩
  | cons node inlines ih =>
      by_cases breaks : isBreak node = true
      · obtain ⟨newlines, rest⟩ := ih
        refine ⟨newlines + 1, ?_⟩
        rw [List.dropWhile_cons, if_pos breaks, List.replicate_succ, List.cons_append, ← rest]
        simp [renderInlines_eq, Node.render_break breaks]
      · exact ⟨0, by rw [List.dropWhile_cons, if_neg breaks]; rfl⟩

/-- What follows the colon is a gap and the content. The gap has line breaks only if nothing but spaces
follows the colon in its inline. -/
theorem exists_gap (after : Text) (rest : List Node) :
    ∃ spaces newlines : Nat,
      after ++ renderInlines rest =
        List.replicate spaces ' ' ++ (List.replicate newlines '\n' ++
          renderInlines (contentInlines (after.dropWhile (· == ' ')) rest)) ∧
      (0 < newlines → ∀ c ∈ after, c = ' ') := by
  obtain ⟨spaces, split⟩ : ∃ spaces : Nat,
      after = List.replicate spaces ' ' ++ after.dropWhile (· == ' ') := by
    refine ⟨(after.takeWhile (· == ' ')).length, ?_⟩
    have run : after.takeWhile (· == ' ') = List.replicate (after.takeWhile (· == ' ')).length ' ' := by
      rw [List.eq_replicate_iff]
      exact ⟨rfl, fun c member => by simpa using List.mem_takeWhile_imp member⟩
    rw [← run, List.takeWhile_append_dropWhile]
  by_cases spaced : after.dropWhile (· == ' ') = []
  · obtain ⟨newlines, broken⟩ := renderInlines_dropBreaks rest
    refine ⟨spaces, newlines, ?_, fun _ c member => ?_⟩
    · rw [spaced, List.append_nil] at split
      rw [contentInlines, if_pos (by simpa using spaced), ← broken, ← split]
    · simpa using List.dropWhile_eq_nil_iff.1 spaced c member
  · have kept : renderInlines (contentInlines (after.dropWhile (· == ' ')) rest) =
        after.dropWhile (· == ' ') ++ renderInlines rest := by
      rw [contentInlines, if_neg (by simpa using spaced)]
      rfl
    refine ⟨spaces, 0, ?_, fun some => absurd some (Nat.lt_irrefl 0)⟩
    rw [kept, List.replicate_zero, List.nil_append, ← List.append_assoc, ← split]

/-- **A line is cut exactly by the grammar of tag lines, and loses no text.** -/
theorem line_splits (paragraph : Node) :
    ((ofParagraph? paragraph).isSome = true ↔
      ∃ colon : Colon paragraph.children, ∃ c ∈ colon.decoded, isBlank c = false) ∧
    ∀ (line : NameLine) (colon : Colon paragraph.children), ofParagraph? paragraph = some line →
      line.name = Text.trim colon.decoded ∧
      ∃ spaces newlines : Nat,
        renderInlines paragraph.children =
          colon.written ++ ':' :: (List.replicate spaces ' ' ++
            (List.replicate newlines '\n' ++ line.content.render)) ∧
        (0 < newlines → ∀ c ∈ colon.after, c = ' ') := by
  constructor
  · rw [Option.isSome_iff_exists]
    simp only [ofParagraph?_eq_some_iff, List.all_eq_false]
    constructor
    · rintro ⟨line, colon, ⟨c, member, solid⟩, -⟩
      exact ⟨colon, c, member, by simpa using solid⟩
    · rintro ⟨colon, c, member, solid⟩
      exact ⟨_, colon, ⟨c, member, by simpa using solid⟩, rfl⟩
  · intro line colon read
    rw [ofParagraph?_colon colon] at read
    split at read
    · cases read
    · cases read
      refine ⟨rfl, ?_⟩
      obtain ⟨spaces, newlines, gap, only⟩ := exists_gap colon.after colon.rest
      exact ⟨spaces, newlines, by rw [colon.renderInlines_eq, gap]; rfl, only⟩

/-- A line with an entity and an escaped colon in its name, whose content stands two lines below. -/
def spacedLine : Node :=
  Node.paragraph
    [{ kind := .special, content := ['\u00A0'], markup := "&nbsp;".toList }, Node.plain ['a'],
     { kind := .special, content := [':'], markup := ['\\', ':'] }, Node.plain "b :  ".toList,
     { kind := .softBreak }, { kind := .hardBreak }, Node.plain "c: d".toList] none

def spacedColon : Colon spacedLine.children where
  before := spacedLine.children.take 3
  holder := Node.plain "b :  ".toList
  rest := spacedLine.children.drop 4
  head := "b ".toList
  after := "  ".toList
  eq := rfl
  leads := by decide +kernel
  isText := rfl
  content := rfl
  free := by decide

/-- A colon that is escaped does not cut, and the content may begin two lines below. -/
theorem line_splits_spacedLine :
    ∃ line, ofParagraph? spacedLine = some line ∧ line.name = "a:b".toList ∧
      line.content.render = "c: d".toList ∧
      ∃ spaces newlines : Nat,
        "&nbsp;a\\:b :  \n\nc: d".toList =
          "&nbsp;a\\:b ".toList ++ ':' :: (List.replicate spaces ' ' ++
            (List.replicate newlines '\n' ++ line.content.render)) := by
  obtain ⟨splits, parts⟩ := line_splits spacedLine
  obtain ⟨line, read⟩ := Option.isSome_iff_exists.1
    (splits.2 ⟨spacedColon, 'a', by decide +kernel, by decide⟩)
  obtain ⟨name, spaces, newlines, whole, -⟩ := parts line spacedColon read
  refine ⟨line, read, name.trans (by decide +kernel), ?_, spaces, newlines, ?_⟩
  · rw [ofParagraph?_colon spacedColon] at read
    cases read
    decide +kernel
  · have written : spacedColon.written = "&nbsp;a\\:b ".toList := by decide +kernel
    have rendered : renderInlines spacedLine.children = "&nbsp;a\\:b :  \n\nc: d".toList := by
      decide +kernel
    rw [written, rendered] at whole
    exact whole

end NameLine

end DocComment
