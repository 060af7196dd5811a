/- Reading back a comment. The abstract and the discussion of a comment make up a text again, with empty
lines between the blocks. From the abstract, and from the blocks that are left of the discussion when the
tags are taken out, it can be told that this text is read as the same comment without tags (`ReadsBack`):
each block is plain, no two neighbours run together, no item reads as a tag, and no HTML comes first.
Paragraphs in the form in which inlines are rendered, with emphasis, code and links, are such blocks
(`IsCanonicalProse.readsBack`).

Comments without these properties may be read back differently. Two lists with different bullets, one
below the other, are both written with hyphens and become one list. -/
import DocComment.Processor
import DocComment.Proofs.AbstractRuns
import DocComment.Proofs.InlineReading
import DocComment.Proofs.Plain
import DocComment.Proofs.Sections
import Mathlib.Data.List.TakeWhile

namespace DocComment

set_option autoImplicit false

open Markdown

/-! ## The lines of a text -/

theorem Text.plainNewlines_eq {t : Text} (clean : '\r' ∉ t) : plainNewlines t = t := by
  induction t with
  | nil => rfl
  | cons c t ih =>
      simp only [List.mem_cons, not_or] at clean
      have other : c ≠ '\r' := Ne.symm clean.1
      simp [plainNewlines, other, ih clean.2]

namespace Markdown

/-- A text that is read as it is. -/
@[mk_iff]
structure IsClean (t : Text) : Prop where
  returns : '\r' ∉ t
  nulls : t.any (·.toNat == 0) = false

instance (t : Text) : Decidable (IsClean t) := decidable_of_iff' _ (isClean_iff t)

theorem IsClean.normalText_eq {t : Text} (clean : IsClean t) : normalText t = t := by
  rw [normalText, Text.plainNewlines_eq clean.returns]
  refine (List.map_congr_left fun c member => ?_).trans (List.map_id t)
  have other := List.any_eq_false.1 clean.nulls c member
  rw [if_neg (by simpa using other), id]

section

variable {rows : List Text}

/-- The last piece is a line too, since it is not blank. -/
theorem Line.length_ofPieces (last : ∀ row, rows.getLast? = some row → row.dropWhile isIndent ≠ []) :
    (Line.ofPieces rows).length = rows.length := by
  induction rows with
  | nil => rfl
  | cons row rows ih =>
      cases rows with
      | nil =>
          have filled : row.all isIndent = false := by
            simpa [List.dropWhile_eq_nil_iff] using last row rfl
          simp [Line.ofPieces, filled]
      | cons next rows =>
          rw [List.getLast?_cons_cons] at last
          rw [Line.ofPieces, List.length_cons, ih last]
          rfl

/-- Every line but the last ends with a newline. -/
theorem Line.getElem?_ofPieces
    (last : ∀ row, rows.getLast? = some row → row.dropWhile isIndent ≠ []) (i : Nat) :
    (Line.ofPieces rows)[i]? = rows[i]?.map (Line.ofText (decide (i + 1 < rows.length))) := by
  induction rows generalizing i with
  | nil => rfl
  | cons row rows ih =>
      cases rows with
      | nil =>
          have filled : row.all isIndent = false := by
            simpa [List.dropWhile_eq_nil_iff] using last row rfl
          cases i <;> simp [Line.ofPieces, filled]
      | cons next rows =>
          rw [List.getLast?_cons_cons] at last
          cases i with
          | zero => simp [Line.ofPieces]
          | succ i => simpa [Line.ofPieces] using ih last i

/-- The lines of a text outside all containers. -/
theorem shows_ofPieces (tidy : Tidy rows) :
    Frame.Shows { lines := Line.ofPieces rows, limit := (Line.ofPieces rows).length } 0 0 rows := by
  have line : ∀ i row, rows[i]? = some row →
      Frame.line { lines := Line.ofPieces rows, limit := (Line.ofPieces rows).length } (0 + i) =
        Line.ofText (decide (i + 1 < rows.length)) row := by
    intro i row found
    rw [Frame.line, Nat.zero_add, Line.getElem?_ofPieces tidy.last, found]
    rfl
  refine ⟨⟨fun i row found => ?_, fun i below => ?_⟩, rfl⟩
  · rw [line i row found]
    exact Line.shows_ofText _ (tidy.neat row (List.mem_of_getElem? found))
  · obtain ⟨row, found⟩ : ∃ row, rows[i]? = some row := ⟨_, List.getElem?_eq_getElem (by omega)⟩
    rw [line i row found]
    simpa [Line.ofText] using below

end

/-! ## Documents -/

/-- **A document is read back** from its blocks, with empty lines between them. -/
theorem read_blocks {nodes : List Node} (filled : nodes ≠ [])
    (each : ∀ node ∈ nodes, Sound maxDepth node) (apart : nodes.IsChain Apart) {t : Text}
    (clean : IsClean t) (lines : Text.lines t = Text.stack true (nodes.map Node.rows)) :
    ∃ copies, Markdown.read {} t = .ok (Node.document copies) ∧ List.Forall₂ Copies copies nodes := by
  have tidy := @Tidy.stack true nodes fun node member => (each node member).tidy
  have height := Line.length_ofPieces tidy.last
  obtain ⟨first, others, shape⟩ := List.exists_cons_of_ne_nil filled
  have ready : Frame.Ready { lines := readLines t, limit := (readLines t).length } {} maxDepth maxDepth
      (readLines t).length :=
    { commands := rfl
      bound := Nat.le_refl _
      inside := Nat.le_refl _
      depth := Nat.le_of_eq (Nat.zero_add _)
      fuel := Nat.le_refl _ }
  have count : nodes.length ≤ (readLines t).length - 0 := by
    rw [readLines, lines, height]
    exact Node.length_le_stack true nodes
  have rows : 0 + (Text.stack true (nodes.map Node.rows)).length = (readLines t).length := by
    rw [readLines, lines, height, Nat.zero_add]
  have shows : Frame.Shows { lines := readLines t, limit := (readLines t).length } 0 0
      (Text.stack true (nodes.map Node.rows)) := by
    rw [readLines, lines]
    exact shows_ofPieces tidy
  obtain ⟨elements, reading, spelled⟩ := @Block.readFrom_spaced {} _ 0 0 _ (readLines t).length _ false
    true _ _ _ filled (fun node member => (each node member).rereads)
    (fun node member => (each node member).starts) apart (by decide) ready shows (Nat.le_of_eq rows)
    (by rw [rows]; exact .ending (.inl (Nat.le_refl _))) (fun more => absurd more (Nat.lt_irrefl _)) count
  obtain ⟨copies, converted, copied⟩ := toBlocks_of_yields (spelled.imp fun _ _ => Spells.yields)
    (Text.lines (Text.plainNewlines t))
  refine ⟨copies, ?_, copied⟩
  have document : Block.readDocument {} (readLines (normalText t)) =
      { elements, stop := (readLines t).length, definitions := []
        tight := decide (nodes.length = 1) && !false } := by
    rw [clean.normalText_eq]
    exact reading
  rw [Markdown.read, Node.ofElement, readRoot, document]
  simp only [fillAll_eq]
  rw [converted]
  rfl

end Markdown

/-! ## Comments -/

/-- The text of an abstract and a discussion, with an empty line between them. -/
def Documentation.textOf (abstract discussion : List Text) : Text :=
  abstract.flatten ++ ['\n', '\n'] ++ Documentation.format discussion

/-- No item of a bullet list begins with a text that makes it a tag. -/
def Untagged (block : Node) : Prop :=
  block.kind = .bulletList → ∀ item ∈ block.children, ∀ text ∈ item.children.head?.map Node.render,
    Harvest.beginsTag (Node.paragraph (inlinesOf text) none) = false

instance : DecidablePred Untagged := fun block =>
  inferInstanceAs (Decidable (block.kind = .bulletList → ∀ item ∈ block.children,
    ∀ text ∈ item.children.head?.map Node.render,
      Harvest.beginsTag (Node.paragraph (inlinesOf text) none) = false))

/-- An abstract and blocks of a discussion that are read back from their text. -/
@[mk_iff]
structure ReadsBack (abstract : List Text) (blocks : List Node) : Prop where
  /-- The abstract is a paragraph, and its inlines make up the same entries again. -/
  paragraph : IsParagraph (Text.lines abstract.flatten)
  entries : abstractEntries (inlinesOf abstract.flatten) = abstract
  plain : ∀ block ∈ blocks, block.isPlain maxDepth = true
  /-- No block runs on into the next one. -/
  apart : blocks.IsChain Apart
  untagged : ∀ block ∈ blocks, Untagged block
  /-- HTML at the beginning does not belong to a discussion. -/
  visible : ∀ block ∈ blocks.head?, block.kind ≠ .htmlBlock
  clean : IsClean (Documentation.textOf abstract (renderAll blocks))

instance (abstract : List Text) (blocks : List Node) : Decidable (ReadsBack abstract blocks) :=
  decidable_of_iff' _ (readsBack_iff abstract blocks)

theorem ReadsBack.abstract_ne_nil {abstract : List Text} {blocks : List Node}
    (back : ReadsBack abstract blocks) : abstract ≠ [] := by
  rintro rfl
  exact (back.paragraph.solid [] (List.mem_singleton_self _)).ne_nil rfl

/-- Whether a paragraph makes its item a tag does not depend on its range. -/
theorem Harvest.beginsTag_eq {first : Node} {inlines : List Node} (paragraph : first.kind = .paragraph)
    (children : first.children = inlines) :
    beginsTag first = beginsTag (Node.paragraph inlines none) := by
  simp only [beginsTag, NameLine.ofParagraph?, paragraph, children, Node.paragraph]
  cases NameLine.cut? inlines with
  | none => rfl
  | some cut => cases nameless : (Text.trim cut.before).isEmpty <;> simp [nameless]

/-- Nothing is harvested from copies of blocks whose items are no tags. -/
theorem harvest_copies {copies blocks : List Node} (copied : List.Forall₂ Copies copies blocks)
    (untagged : ∀ block ∈ blocks, Untagged block) :
    harvest copies = .ok { blocks := copies, table := {}, consumed := [] } := by
  refine Harvest.harvest_of_taken_nil (List.eq_nil_iff_forall_not_mem.2 fun node member => ?_)
  obtain ⟨copy, memberCopy, taken⟩ := List.mem_flatMap.1 member
  obtain ⟨block, memberBlock, copies⟩ := exists_of_forall₂ copied memberCopy
  obtain ⟨list, memberItem, tag⟩ := Harvest.mem_takings_block copies.quiet taken
  have isList : block.kind = .bulletList := copies.kind.symm.trans list
  obtain ⟨item, memberOld, head⟩ := exists_of_forall₂ (copies.items isList) memberItem
  obtain ⟨first, others, children, paragraph, text, rendered, inlines⟩ := head.head
  rw [Harvest.isTag_eq_beginsTag head.kind children] at tag
  have quiet := untagged block memberBlock isList item memberOld text rendered
  rw [Harvest.beginsTag_eq paragraph inlines, quiet] at tag
  cases tag

def paragraphOf (t : Text) : Node := Node.paragraph [Node.plain t] none

theorem render_paragraphOf (t : Text) : (paragraphOf t).render = t := by
  simp [paragraphOf, Node.render, renderAll, Node.paragraph, Node.plain, Render.assemble, Kind.isList]

theorem plainParagraph_of_settled {t : Text} (lines : IsParagraph (Text.lines t)) (settled : t.IsSettled) :
    PlainParagraph (paragraphOf t) := by
  refine ⟨rfl, ?_, ?_⟩
  · rwa [Node.rows, render_paragraphOf]
  · rwa [render_paragraphOf]

theorem apart_paragraphOf (t : Text) (next : Node) : Apart (paragraphOf t) next := by
  refine ⟨fun list => ?_, fun code => ?_⟩
  · cases list
  · cases code

/-- The abstract is one more paragraph in front of the blocks. -/
theorem lines_textOf {blocks : List Node} (abstract : List Text) (filled : blocks ≠ []) :
    Text.lines (Documentation.textOf abstract (renderAll blocks)) =
      Text.stack true ((paragraphOf abstract.flatten :: blocks).map Node.rows) := by
  obtain ⟨block, others, rfl⟩ := List.exists_cons_of_ne_nil filled
  have joined : Documentation.textOf abstract (renderAll (block :: others)) =
      Text.joinWith (Render.gap false)
        (renderAll (paragraphOf abstract.flatten :: block :: others)) := by
    simp only [renderAll, render_paragraphOf]
    rfl
  rw [joined, Text.lines_joinWith_gap false (by simp [renderAll]), renderAll_eq, List.map_map]
  rfl

/-- The sections of copies of a paragraph and of blocks. -/
theorem Split.sections_copies {copy block : Node} {copies blocks : List Node}
    (abstract : copy.kind = .paragraph) (copied : List.Forall₂ Copies copies (block :: blocks))
    (visible : block.kind ≠ .htmlBlock) :
    abstractOf (copy :: copies) = some (abstractEntries copy.children) ∧
      discussionOf (copy :: copies) = copies := by
  cases copied with
  | @cons next _ rest _ one _ =>
      have first : visible? (copy :: next :: rest) 0 = some 0 := by
        rw [visible?_cons, if_neg (by simp [abstract])]
      have index : abstractIndex? (copy :: next :: rest) = some 0 := by
        simp [abstractIndex?, first, abstract]
      have start : discussionIndex? (copy :: next :: rest) = some 1 := by
        rw [discussionIndex?, index]
        show visible? (copy :: next :: rest) (0 + 1) = some 1
        rw [visible?_cons_succ, visible?_cons, if_neg (by rw [one.kind]; exact visible)]
        rfl
      refine ⟨?_, ?_⟩
      · simp [abstractOf, index]
      · simp [discussionOf, start]

/-- **The model of a rendered comment** is made of the abstract and the texts of the blocks. -/
theorem ReadsBack.model_textOf {abstract : List Text} {blocks : List Node}
    (back : ReadsBack abstract blocks) (filled : blocks ≠ []) :
    (({} : Processor).model (Documentation.textOf abstract (renderAll blocks))).result =
      .ok { abstract := some abstract, discussion := some (renderAll blocks), tags := some {} } := by
  have settled : Text.IsSettled abstract.flatten := by
    rw [Text.IsSettled, ← flatten_abstractEntries, back.entries]
  have sound : ∀ node ∈ paragraphOf abstract.flatten :: blocks, Sound maxDepth node := by
    rw [List.forall_mem_cons]
    exact ⟨sound_paragraph (plainParagraph_of_settled back.paragraph settled),
      fun block member => sound_of_isPlain (back.plain block member)⟩
  obtain ⟨block, others, rfl⟩ := List.exists_cons_of_ne_nil filled
  have apart : (paragraphOf abstract.flatten :: block :: others).IsChain Apart :=
    List.isChain_cons_cons.2 ⟨apart_paragraphOf _ block, back.apart⟩
  obtain ⟨copies, read, copied⟩ := read_blocks (by simp) sound apart back.clean
    (lines_textOf abstract filled)
  cases copied with
  | @cons copy _ copies _ one rest =>
      have inlines : copy.children = inlinesOf abstract.flatten := by
        rw [one.inlines rfl, render_paragraphOf]
      obtain ⟨abstractOf, discussionOf⟩ := Split.sections_copies one.kind rest
        (back.visible block rfl)
      have discussion : Harvest.discussion { blocks := copies, table := {}, consumed := [] } =
          some (renderAll (block :: others)) := by
        rw [← Copies.renderAll_eq rest]
        cases rest
        rfl
      have document : Documentation.ofDocument .ending (Node.document (copy :: copies)) =
          .ok { abstract := some abstract, discussion := some (renderAll (block :: others))
                tags := some {} } := by
        have children : (Node.document (copy :: copies)).children = copy :: copies := rfl
        rw [Documentation.ofDocument_eq rfl, children, abstractOf, discussionOf, inlines, back.entries,
          harvest_copies rest back.untagged, ← discussion]
        rfl
      rw [Processor.model, read]
      exact document

/-! ## Prose -/

theorem renderAll_paragraphOf (texts : List Text) : renderAll (texts.map paragraphOf) = texts := by
  induction texts with
  | nil => rfl
  | cons t texts ih => rw [List.map_cons, renderAll, ih, render_paragraphOf]

/-- A paragraph and others below it, all in the form in which inlines are rendered. -/
structure IsCanonicalProse (first : Text) (texts : List Text) : Prop where
  filled : texts ≠ []
  each : ∀ t ∈ first :: texts, IsParagraph (Text.lines t) ∧ Inline.IsCanonical ' ' t
  clean : IsClean (Documentation.textOf [first] texts)

namespace IsCanonicalProse

variable {first : Text} {texts : List Text}

theorem flatten_entries (prose : IsCanonicalProse first texts) :
    (abstractEntries (inlinesOf first)).flatten = first :=
  (flatten_abstractEntries _).trans (Text.isSettled_of_isCanonical (prose.each first List.mem_cons_self).2)

theorem textOf_entries (prose : IsCanonicalProse first texts) :
    Documentation.textOf (abstractEntries (inlinesOf first)) texts = Documentation.textOf [first] texts := by
  rw [Documentation.textOf, prose.flatten_entries, Documentation.textOf, List.flatten_singleton]

/-- Canonical text is settled, so each paragraph is plain, and paragraphs never run together. -/
theorem readsBack (prose : IsCanonicalProse first texts) :
    ReadsBack (abstractEntries (inlinesOf first)) (texts.map paragraphOf) := by
  have kind : ∀ block ∈ texts.map paragraphOf, block.kind = .paragraph := by
    intro block member
    obtain ⟨t, -, rfl⟩ := List.mem_map.1 member
    rfl
  exact {
    paragraph := by
      rw [prose.flatten_entries]
      exact (prose.each first List.mem_cons_self).1
    entries := by rw [prose.flatten_entries]
    plain := by
      intro block member
      obtain ⟨t, inside, rfl⟩ := List.mem_map.1 member
      obtain ⟨lines, canonical⟩ := prose.each t (List.mem_cons_of_mem first inside)
      exact decide_eq_true (plainParagraph_of_settled lines (Text.isSettled_of_isCanonical canonical))
    apart := (List.pairwise_map.2 (List.pairwise_of_forall fun t next =>
      apart_paragraphOf t (paragraphOf next))).isChain
    untagged := by
      intro block member list
      rw [kind block member] at list
      cases list
    visible := by
      intro block member html
      rw [kind block (List.mem_of_mem_head? member)] at html
      cases html
    clean := by
      rw [renderAll_paragraphOf, prose.textOf_entries]
      exact prose.clean }

/-- **Prose is read as it is written**: paragraphs of canonical text, with empty lines between them, are an
abstract and a discussion of the same texts. -/
theorem model_eq (prose : IsCanonicalProse first texts) :
    (({} : Processor).model (Documentation.textOf [first] texts)).result =
      .ok { abstract := some (abstractEntries (inlinesOf first)), discussion := some texts
            tags := some {} } := by
  have model := prose.readsBack.model_textOf (by simpa using prose.filled)
  rwa [renderAll_paragraphOf, prose.textOf_entries] at model

end IsCanonicalProse

/-! ## Rendered comments -/

/-- The blocks that are left of the discussion of a text when its tags are taken out. -/
def remainingBlocks (t : Text) : List Node :=
  match Markdown.read {} t with
  | .error _ => []
  | .ok document =>
    match harvest (Split.discussionOf document.children) with
    | .error _ => []
    | .ok h => h.blocks

/-- The discussion of a text consists of its remaining blocks. -/
theorem Processor.discussion_of_model {t : Text} {m : Documentation} {discussion : List Text}
    (model : (({} : Processor).model t).result = .ok m) (found : m.discussion = some discussion) :
    remainingBlocks t ≠ [] ∧ discussion = renderAll (remainingBlocks t) := by
  unfold Processor.model at model
  unfold remainingBlocks
  cases read : Markdown.read {} t with
  | error fault =>
      simp only [read] at model
      cases model
  | ok document =>
      simp only [read, Processor.modelOf] at model ⊢
      rw [Documentation.ofDocument_eq rfl] at model
      cases harvested : harvest (Split.discussionOf document.children) with
      | error fault =>
          simp only [harvested] at model
          cases model
      | ok h =>
          simp only [harvested] at model ⊢
          cases model
          simp only [Harvest.discussion] at found
          split at found
          · cases found
          · next filled =>
              cases found
              exact ⟨by simpa using filled, rfl⟩

theorem ReadsBack.toJson_eq {abstract : List Text} {blocks : List Node} {m : Documentation}
    (back : ReadsBack abstract blocks) (filled : blocks ≠ []) (first : m.abstract = some abstract)
    (second : m.discussion = some (renderAll blocks)) :
    Documentation.toJson { m with tags := some {} } = .obj
      [("abstract".toList, Json.texts abstract), ("discussion".toList, Json.texts (renderAll blocks))] := by
  obtain ⟨block, blocks, rfl⟩ := List.exists_cons_of_ne_nil filled
  obtain ⟨entry, entries, rfl⟩ := List.exists_cons_of_ne_nil back.abstract_ne_nil
  rw [first, second]
  rfl

/-- **A comment is read back from its rendered text.** Let a text have an abstract and a discussion that
can be read back, or let it be prose: paragraphs of plain characters, escapes, references, emphasis, code and
links, written as they are rendered. What is then read from the abstract, an empty line and the discussion is a
comment with the same abstract and the same discussion, entry by entry, and without tags. -/
theorem Processor.model_of_rendered {t : Text} {m : Documentation} {abstract discussion : List Text}
    (model : (({} : Processor).model t).result = .ok m) (first : m.abstract = some abstract)
    (second : m.discussion = some discussion)
    (back : ReadsBack abstract (remainingBlocks t) ∨
      ∃ opening texts, t = Documentation.textOf [opening] texts ∧ IsCanonicalProse opening texts) :
    (({} : Processor).model (Documentation.textOf abstract discussion)).result =
        .ok { m with tags := some {} } ∧
      Documentation.toJson { m with tags := some {} } = .obj
        [("abstract".toList, Json.texts abstract), ("discussion".toList, Json.texts discussion)] := by
  rcases back with back | ⟨opening, texts, rfl, prose⟩
  · obtain ⟨filled, rfl⟩ := Processor.discussion_of_model model second
    refine ⟨?_, back.toJson_eq filled first second⟩
    rw [first, second]
    exact back.model_textOf filled
  · have known := prose.model_eq
    rw [model] at known
    cases known
    cases first
    cases second
    have json := @ReadsBack.toJson_eq _ _ { abstract := _, discussion := _, tags := some {} } prose.readsBack
      (by simpa using prose.filled) rfl rfl
    rw [renderAll_paragraphOf] at json
    rw [prose.textOf_entries]
    exact ⟨model, json⟩

/-- A comment with blocks of many kinds, and with tags among them. -/
def spreadText : Text :=
  ("Opens a *file* &amp; its `path`.\n\n" ++
    "+ a \\*mode\\*:\n  1) read\n  2) write\n+ more\n\n      code\n\n" ++
    "- Parameter path: Where.\n- Returns: The file.\n\n" ++ "> Note\n> ***\n> this.\n\n" ++
    "~~~swift\nopen()\n~~~\n\n" ++ "@Row(x: 1) \x7b\n    Inside.\n\x7d\n\n" ++ "<hr>\n\n" ++
    "End\n===").toList

def spreadModel : Documentation :=
  { abstract := some
      ["Opens a ".toList, "*file*".toList, " &amp; its ".toList, "`path`".toList, ".".toList]
    discussion := some
      ["- a \\*mode\\*:\n\n  1) read\n  2) write\n\n- more\n\n      code".toList,
       "> Note\n>\n> ---\n>\n> this.".toList, "~~~swift\nopen()\n~~~".toList,
       "@Row(x: 1) \x7b\n    Inside.\n\x7d".toList, "<hr>".toList, "# End".toList]
    tags := some
      { parameters := [{ name := "path".toList, contents := ["Where.".toList], standalone := true }]
        returns := [["The file.".toList]] } }

theorem eq_ok_of_toOption {ε α : Type} {x : Except ε α} {a : α} (found : x.toOption = some a) :
    x = .ok a := by
  cases x with
  | error fault => cases found
  | ok b =>
      cases found
      rfl

def proseFirst : Text := "Opens a *file*, see [the `open` guide](https://a.org \"all\").".toList

def proseSecond : Text := "It is **read_only** &amp; never\n`closed`.".toList

/-- Part by part; the link text is one of its own. -/
theorem isCanonical_proseFirst : Inline.IsCanonical ' ' proseFirst := by
  have label : Inline.IsLabel (']' :: '(' :: (Inline.targetText "https://a.org".toList "all".toList ++ [')', '.']))
      '[' ("the ".toList ++ (Inline.codeText 1 "open".toList ++ (" guide".toList ++ []))) := by
    refine .cons (.run (by decide) (by decide) (by decide) (by decide)) ?_
    refine .cons (.code ?_ (by decide) (by decide) (by decide)) ?_
    · exact .cons (by decide) (.cons (by decide) (.cons (by decide) (.single (by decide))))
    exact .cons (.run (by decide) (by decide) (by decide) (by decide)) (.nil _)
  show Inline.IsCanonical ' ' ("Opens a ".toList ++ (List.replicate 1 '*' ++ ("file".toList ++
    (List.replicate 1 '*' ++ (", see ".toList ++
      (Inline.linkText "the `open` guide".toList "https://a.org".toList "all".toList ++ (".".toList ++ [])))))))
  refine .cons (.run (by decide) (by decide) (by decide) (by decide)) ?_
  refine .cons (.marks (.inl rfl) (by decide) fun _ => rfl) ?_
  refine .cons (.run (by decide) (by decide) (by decide) (by decide)) ?_
  refine .cons (.marks (.inl rfl) (by decide) fun _ => rfl) ?_
  refine .cons (.run (by decide) (by decide) (by decide) (by decide)) ?_
  refine .link (by decide +kernel) label ?_
  exact .cons (.run (by decide) (by decide) (by decide) (by decide)) (.nil _)

theorem isCanonical_proseSecond : Inline.IsCanonical ' ' proseSecond := by
  show Inline.IsCanonical ' ' ("It is ".toList ++ (List.replicate 2 '*' ++ ("read".toList ++
    (List.replicate 1 '_' ++ ("only".toList ++ (List.replicate 2 '*' ++ (" ".toList ++
      ("&amp;".toList ++ (" never".toList ++ (['\n'] ++ (Inline.codeText 1 "closed".toList ++
        (".".toList ++ []))))))))))))
  refine .cons (.run (by decide) (by decide) (by decide) (by decide)) ?_
  refine .cons (.marks (.inl rfl) (by decide) fun _ => rfl) ?_
  refine .cons (.run (by decide) (by decide) (by decide) (by decide)) ?_
  -- A low line inside a word opens nothing.
  refine .cons (.marks (.inr rfl) (by decide) (by decide)) ?_
  refine .cons (.run (by decide) (by decide) (by decide) (by decide)) ?_
  refine .cons (.marks (.inl rfl) (by decide) fun _ => rfl) ?_
  refine .cons (.run (by decide) (by decide) (by decide) (by decide)) ?_
  refine .cons (@Inline.Part.reference _ _ "amp;".toList _ ['&'] (by decide) (by decide +kernel)) ?_
  refine .cons (.run (by decide) (by decide) (by decide) (by decide)) ?_
  refine .cons (.lineBreak (by decide)) ?_
  refine .cons (.code ?_ (by decide) (by decide) (by decide)) ?_
  · exact .cons (by decide) (.cons (by decide) (.cons (by decide) (.cons (by decide) (.cons (by decide)
      (.single (by decide))))))
  exact .cons (.run (by decide) (by decide) (by decide) (by decide)) (.nil _)

theorem isCanonicalProse_sample : IsCanonicalProse proseFirst [proseSecond] where
  filled := by simp
  each := by
    rw [List.forall_mem_cons, List.forall_mem_singleton]
    exact ⟨⟨by decide +kernel, isCanonical_proseFirst⟩, by decide +kernel, isCanonical_proseSecond⟩
  clean := by decide +kernel

set_option maxRecDepth 20000 in
/-- Lists of both kinds, code, a quote, a rule, a directive, HTML and a heading are read back, and so is prose
with emphasis, code and a link. -/
theorem Processor.model_of_rendered_spreadText :
    (({} : Processor).model spreadText).result = .ok spreadModel ∧
      ReadsBack (spreadModel.abstract.getD []) (remainingBlocks spreadText) ∧
      (({} : Processor).model (Documentation.textOf (spreadModel.abstract.getD [])
        (spreadModel.discussion.getD []))).result = .ok { spreadModel with tags := some {} } ∧
      IsCanonicalProse proseFirst [proseSecond] ∧
      (({} : Processor).model (Documentation.textOf (abstractEntries (inlinesOf proseFirst))
        [proseSecond])).result =
          .ok { abstract := some (abstractEntries (inlinesOf proseFirst)), discussion := some [proseSecond]
                tags := some {} } := by
  have model : (({} : Processor).model spreadText).result = .ok spreadModel :=
    eq_ok_of_toOption (by decide +kernel)
  have back : ReadsBack (spreadModel.abstract.getD []) (remainingBlocks spreadText) := by
    decide +kernel
  have prose := isCanonicalProse_sample
  exact ⟨model, back, (Processor.model_of_rendered model rfl rfl (.inl back)).1, prose,
    (Processor.model_of_rendered prose.model_eq rfl rfl (.inr ⟨_, _, rfl, prose⟩)).1⟩

set_option maxRecDepth 10000 in
/-- Two lists whose bullets differ are read back as one list with two items. -/
theorem Processor.model_of_rendered_adjacentLists :
    (({} : Processor).model "A\n\n- a\n\n* b".toList).result =
        .ok { abstract := some [['A']], discussion := some ["- a".toList, "- b".toList]
              tags := some {} } ∧
      (({} : Processor).model (Documentation.textOf [['A']] ["- a".toList, "- b".toList])).result =
        .ok { abstract := some [['A']], discussion := some ["- a\n\n- b".toList], tags := some {} } :=
  ⟨eq_ok_of_toOption (by decide +kernel), eq_ok_of_toOption (by decide +kernel)⟩

end DocComment
