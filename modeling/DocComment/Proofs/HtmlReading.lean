/- Reading back HTML. A block of HTML ends before an empty line or with the line that closes it, according
to how it begins. Its lines are rendered as they are, so it is read back if no line before the last one
closes it. -/
import DocComment.Proofs.Rereading

namespace DocComment

set_option autoImplicit false

namespace Markdown

/-- Whether a block that ends in a given way lasts as long as its lines. -/
def Html.Ending.lasts (ending : Html.Ending) : List Text → Bool
  | [] => ending == .emptyLine
  | row :: rows => if ending.holds (row.dropWhile isIndent) then rows.isEmpty else lasts ending rows

/-- The lines of a block of HTML, none of them blank. -/
@[mk_iff]
structure IsHtml (rows : List Text) : Prop where
  neat : ∀ row ∈ rows, row.IsNeat
  filled : ∀ row ∈ rows, row.dropWhile isIndent ≠ []
  opens : ∃ row ∈ rows.head?, ∃ opening ∈ Html.opening? row, opening.ending.lasts rows = true

instance (rows : List Text) : Decidable (IsHtml rows) := decidable_of_iff' _ (isHtml_iff rows)

/-- HTML begins with an angle bracket, since every kind of block does. -/
theorem IsHtml.eq_cons {rows : List Text} (html : IsHtml rows) :
    ∃ tail rest opening, rows = ('<' :: tail) :: rest ∧ Html.opening? ('<' :: tail) = some opening ∧
      opening.ending.lasts rows = true := by
  obtain ⟨row, first, opening, opens, lasts⟩ := html.opens
  obtain ⟨rest, rfl⟩ : ∃ rest, rows = row :: rest := by
    cases rows with
    | nil => cases first
    | cons other rest => exact ⟨rest, by simpa using first⟩
  rw [Option.mem_def] at opens
  have angle := opens
  unfold Html.opening? at angle
  split at angle
  · exact ⟨_, rest, opening, rfl, opens, lasts⟩
  · cases angle

variable {options : Options} {frame : Frame} {columns start stop : Nat}

/-- The lines of HTML are kept with newlines between them; whether one stands at the end depends on what
follows. -/
theorem Frame.Displays.verbatim_all {rows : List Text} (shows : frame.Displays columns start rows) :
    ∃ newlines, (∀ c ∈ newlines, c = '\n') ∧
      frame.verbatim start (start + rows.length) columns = Text.unlines rows ++ newlines := by
  induction rows generalizing start with
  | nil => exact ⟨[], by simp, by simp [verbatim, range_self, Text.unlines, Text.joinWith]⟩
  | cons row rows ih =>
      obtain ⟨newlines, only, rest⟩ := ih shows.tail
      rw [verbatim] at rest ⊢
      rw [List.length_cons, range_succ, List.flatMap_cons, rest]
      by_cases more : rows = []
      · subst more
        cases ends : (frame.line start).terminated with
        | true => exact ⟨'\n' :: newlines, by simpa using only, by
            simp [shows.head.content_eq, ends, Text.unlines, Text.joinWith]⟩
        | false => exact ⟨newlines, only, by
            simp [shows.head.content_eq, ends, Text.unlines, Text.joinWith]⟩
      · have ends := shows.terminated_head more
        exact ⟨newlines, only, by simp [shows.head.content_eq, ends, Text.unlines_cons more]⟩

/-- By induction on the lines: a block that lasts passes each of them, and ends at the empty line below or
with the text. -/
theorem HtmlBlock.findEnd_eq {ending : Html.Ending} {rows : List Text} {count : Nat}
    (shows : frame.Shows columns start rows) (filled : ∀ row ∈ rows, row.dropWhile isIndent ≠ [])
    (lasts : ending.lasts rows = true) (enough : rows.length ≤ count)
    (ends : rows.length = count ∨ frame.isEmpty (start + rows.length) = true) :
    findEnd frame ending count start = start + rows.length := by
  induction rows generalizing start count with
  | nil =>
      obtain rfl : ending = .emptyLine := by simpa [Html.Ending.lasts] using lasts
      cases count with
      | zero => rfl
      | succ count =>
          have empty : frame.isEmpty start = true := ends.elim (fun none => by cases none) id
          have body : frame.body start = [] := by
            simpa [Frame.isEmpty, Line.isEmpty, Frame.body] using empty
          simp [findEnd, body, Html.Ending.holds]
  | cons row rows ih =>
      rw [List.length_cons] at enough ends ⊢
      obtain ⟨left, rfl⟩ : ∃ left, count = left + 1 := ⟨count - 1, by omega⟩
      have same : start + (rows.length + 1) = start + 1 + rows.length := by omega
      have text := filled row (List.mem_cons_self ..)
      have body : frame.body start = row.dropWhile isIndent := shows.head.body
      rw [findEnd, if_neg (by simp [(shows.filled text).2]), body]
      rw [Html.Ending.lasts] at lasts
      by_cases closes : ending.holds (row.dropWhile isIndent) = true
      · obtain rfl : rows = [] := by simpa [closes] using lasts
        simp [closes, text]
      · rw [if_neg closes] at lasts ⊢
        rw [same] at ends ⊢
        exact ih shows.tail (fun r member => filled r (List.mem_cons_of_mem _ member)) lasts (by omega)
          (ends.imp_left (by omega))

/-- HTML is read back. -/
theorem Block.read_html (inner : Reader) (definitions : Definitions) {rows : List Text}
    (html : IsHtml rows) (shows : frame.Shows columns start rows)
    (inside : start + rows.length ≤ stop)
    (ends : start + rows.length = stop ∨ frame.isEmpty (start + rows.length) = true) :
    ∃ newlines, (∀ c ∈ newlines, c = '\n') ∧
      read inner options frame definitions start stop =
        { elements := [{ kind := .htmlBlock, content := Text.unlines rows ++ newlines
                         span := some (start, start + rows.length) }]
          stop := start + rows.length
          definitions } := by
  obtain ⟨tail, rest, opening, rfl, opens, lasts⟩ := html.eq_cons
  have solid := shows.solid (Text.isSolid_cons rfl tail)
  obtain ⟨newlines, only, verbatim⟩ := shows.toDisplays.verbatim_all
  refine ⟨newlines, only, ?_⟩
  have next : (if opening.ending.holds ('<' :: tail) then start + 1
      else HtmlBlock.findEnd frame opening.ending (stop - (start + 1)) (start + 1)) =
      start + (('<' :: tail) :: rest).length := by
    rw [Html.Ending.lasts, (Text.isSolid_cons rfl tail : Text.IsSolid ('<' :: tail)).dropWhile] at lasts
    rw [List.length_cons] at inside ends ⊢
    have same : start + (rest.length + 1) = start + 1 + rest.length := by omega
    by_cases closes : opening.ending.holds ('<' :: tail) = true
    · obtain rfl : rest = [] := by simpa [closes] using lasts
      simp [closes]
    · rw [if_neg closes] at lasts ⊢
      rw [same] at inside ends ⊢
      exact HtmlBlock.findEnd_eq shows.tail
        (fun row member => html.filled row (List.mem_cons_of_mem _ member)) lasts (by omega)
        (ends.imp_left (by omega))
  rw [← shows.indent] at verbatim
  have items : Items.read? inner options frame definitions start stop = none :=
    Items.read?_eq_none solid (ListMark.read?_eq_none (by decide) (by decide))
  simp only [read, CodeBlock.read?, Fence.read?, Quote.read?, Quote.starts, Rule.read?, items,
    Definition.read?, HtmlBlock.read?, solid.isCode, solid.body, opens, next, verbatim]
  simp [Fence.opening?_eq_none, Rule.marks?_eq_none]

variable {room : Nat} {node : Node}

theorem rows_html (html : node.kind = .htmlBlock) : node.rows = node.codeLines := by
  rw [Node.rows, Node.render_other (by rw [html]; rfl)]
  simp only [Render.assemble, html]
  rfl

theorem spells_html (html : node.kind = .htmlBlock) {newlines : Text} (only : ∀ c ∈ newlines, c = '\n')
    (span : Option (Nat × Nat)) :
    Spells { kind := .htmlBlock, content := Text.unlines node.rows ++ newlines, span } node := by
  refine ⟨html.symm, rfl, fun source => ⟨_, rfl, .of_other (by simp [html]) (by simp [html])
    html.symm ?_ rfl⟩⟩
  rw [Node.render_other rfl, Node.render_other (by rw [html]; rfl)]
  simp only [Render.assemble, html]
  rw [dropNewlines_append only, rows_html html, Node.codeLines, Text.unlines_lines,
    dropNewlines_dropNewlines]

/-- HTML ends at an empty line or with its container, and needs nothing else to be told where. -/
theorem rereads_html (html : node.kind = .htmlBlock) (lines : IsHtml node.rows) : Rereads room node := by
  intro options fuel frame columns start stop s ready shows inside rest closed parts
  have ends : start + node.rows.length = stop ∨ frame.isEmpty (start + node.rows.length) = true := by
    have apart := closed (by simp [Node.hugs, html])
    generalize start + node.rows.length = e at apart ⊢
    cases apart with
    | ending ends => exact .inl rfl
    | spaced empty more filled => exact .inr empty
  obtain ⟨newlines, only, read⟩ := Block.read_html (Block.readBlocks options fuel) [] lines shows inside
    ends
  refine ⟨_, ?_, spells_html html only (some (start, start + node.rows.length))⟩
  rw [read, html]
  rfl

end Markdown

end DocComment
