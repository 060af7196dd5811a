/- Commands are a conservative extension of Markdown. If nothing in a text begins like a command, no line
starts one or is interrupted by one, whatever containers it stands in; so the blocks that are read are the
same with commands and without, at any depth (`Block.agree_readBlocks`), and so is the document
(`read_conservative`). -/
import DocComment.Proofs.Conversion

namespace DocComment.Markdown

set_option autoImplicit false

/-! ## Texts without commands -/

/-- What every command begins with. -/
def commandMarks : List Text := ["@".toList, "\\param".toList, "\\return".toList, "\\result".toList]

/-- A text in which nothing can begin a command, at the start of a line or elsewhere. -/
def HoldsNoCommand (t : Text) : Prop := ∀ mark ∈ commandMarks, ¬ mark <:+: t

instance (t : Text) : Decidable (HoldsNoCommand t) :=
  inferInstanceAs (Decidable (∀ mark ∈ commandMarks, ¬ mark <:+: t))

namespace HoldsNoCommand

variable {t : Text}

theorem of_part {piece : Text} (free : HoldsNoCommand t) (part : piece <:+: t) :
    HoldsNoCommand piece :=
  fun mark listed inside => free mark listed (inside.trans part)

theorem nil : HoldsNoCommand [] := by
  intro mark listed inside
  have empty : mark = [] := List.infix_nil.mp inside
  subst empty
  exact absurd listed (by decide)

end HoldsNoCommand

/-- A word that begins with a mark does not begin a text without commands. -/
theorem HoldsNoCommand.after?_eq_none {t mark word : Text} (free : HoldsNoCommand t)
    (listed : mark ∈ commandMarks) (longer : mark <+: word) : Text.after? word t = none := by
  cases found : Text.after? word t with
  | none => rfl
  | some rest =>
    have begins : word <+: t := ⟨rest, (Text.after?_eq_some_iff.1 found).symm⟩
    have inside : mark <+: t := longer.trans begins
    exact absurd inside.isInfix (free mark listed)

/-- Every description begins with one of the words that the text does not hold. -/
theorem HoldsNoCommand.described {t : Text} (free : HoldsNoCommand t) :
    Described.ofLine? t = none := by
  have parameter : Text.after? "\\param".toList t = none :=
    free.after?_eq_none (by decide) (List.prefix_refl _)
  have returns : Text.after? "\\returns".toList t = none :=
    free.after?_eq_none (by decide : "\\return".toList ∈ commandMarks) (by decide)
  have noReturn : Text.after? "\\return".toList t = none :=
    free.after?_eq_none (by decide) (List.prefix_refl _)
  have noResult : Text.after? "\\result".toList t = none :=
    free.after?_eq_none (by decide) (List.prefix_refl _)
  have first : Described.parameterOf? t = none := by
    rw [Described.parameterOf?, parameter]
    rfl
  have second : Described.resultOf? t = none := by
    rw [Described.resultOf?]
    simp only [List.findSome?_cons, returns, noReturn, noResult, List.findSome?_nil]
    rfl
  rw [Described.ofLine?, first, second]
  rfl

theorem HoldsNoCommand.directive {t : Text} (free : HoldsNoCommand t) :
    Directive.ofLine? t = none := by
  unfold Directive.ofLine?
  split
  · rename_i c rest
    have inside : "@".toList <:+: '@' :: c :: rest := ⟨[], c :: rest, rfl⟩
    exact absurd inside (free _ (by decide))
  · rfl

/-! ## The lines of a text -/

/-- A word without newlines that begins a text with plain newlines begins the text. -/
theorem isPrefix_of_plainNewlines {word : Text} (free : '\n' ∉ word) {t : Text}
    (inside : word <+: Text.plainNewlines t) : word <+: t := by
  fun_induction Text.plainNewlines t generalizing word with
  | case1 => exact inside
  | case2 rest ih =>
    cases word with
    | nil => exact List.nil_prefix
    | cons c word =>
      obtain ⟨rfl, -⟩ := List.cons_prefix_cons.mp inside
      exact absurd List.mem_cons_self free
  | case3 c rest _ ih =>
    cases word with
    | nil => exact List.nil_prefix
    | cons d word =>
      obtain ⟨head, tail⟩ := List.cons_prefix_cons.mp inside
      rw [List.mem_cons, not_or] at free
      by_cases lineEnd : c = '\r'
      · rw [if_pos lineEnd] at head
        exact absurd head.symm free.1
      · rw [if_neg lineEnd] at head
        exact List.cons_prefix_cons.mpr ⟨head, ih free.2 tail⟩

/-- Reading returns as newlines makes no word appear that has no newline in it. -/
theorem isInfix_of_plainNewlines {word : Text} (free : '\n' ∉ word) {t : Text}
    (inside : word <:+: Text.plainNewlines t) : word <:+: t := by
  fun_induction Text.plainNewlines t with
  | case1 => exact inside
  | case2 rest ih =>
    rcases List.infix_cons_iff.mp inside with first | later
    · rw [← Text.plainNewlines.eq_2 rest] at first
      exact (isPrefix_of_plainNewlines free first).isInfix
    · exact List.infix_cons (List.infix_cons (ih later))
  | case3 c rest other ih =>
    rcases List.infix_cons_iff.mp inside with first | later
    · rw [← Text.plainNewlines.eq_3 c rest other] at first
      exact (isPrefix_of_plainNewlines free first).isInfix
    · exact List.infix_cons (ih later)

theorem letters_commandMarks :
    ∀ mark ∈ commandMarks, '\n' ∉ mark ∧ Char.ofNat 0xFFFD ∉ mark := by
  decide

/-- Neither plain newlines nor the replacement of U+0000 can make up a command. -/
theorem HoldsNoCommand.normalText {source : Text} (free : HoldsNoCommand source) :
    HoldsNoCommand (normalText source) := by
  intro mark listed inside
  obtain ⟨newline, replaced⟩ := letters_commandMarks mark listed
  obtain ⟨piece, part, spelled⟩ := List.infix_map_iff.mp inside
  have kept : ∀ c ∈ piece, (if c.toNat = 0 then Char.ofNat 0xFFFD else c) = c := by
    intro c member
    by_cases null : c.toNat = 0
    · refine absurd ?_ replaced
      rw [spelled]
      exact List.mem_map.mpr ⟨c, member, if_pos null⟩
    · exact if_neg null
  have same : mark = piece := by
    rw [spelled, List.map_congr_left kept, List.map_id']
  subst same
  exact free mark listed (isInfix_of_plainNewlines newline part)

theorem isInfix_unlines {line : Text} :
    ∀ {pieces : List Text}, line ∈ pieces → line <:+: Text.unlines pieces
  | [], listed => absurd listed List.not_mem_nil
  | [piece], listed => by
      obtain rfl := List.mem_singleton.mp listed
      exact List.infix_refl line
  | piece :: next :: pieces, listed => by
      rw [Text.unlines_cons (List.cons_ne_nil next pieces)]
      rcases List.mem_cons.mp listed with rfl | later
      · exact (List.prefix_append ..).isInfix
      · have rest : line <:+: Text.unlines (next :: pieces) := isInfix_unlines later
        exact rest.trans ((List.suffix_cons ..).trans (List.suffix_append ..)).isInfix

/-- A line is a piece of its text. -/
theorem isInfix_of_mem_lines {line t : Text} (listed : line ∈ Text.lines t) : line <:+: t := by
  have piece := isInfix_unlines listed
  rwa [Text.unlines_lines] at piece

/-- A line is one of the pieces, with or without a newline after it. -/
theorem HoldsNoCommand.ofPieces :
    ∀ {pieces : List Text}, (∀ piece ∈ pieces, HoldsNoCommand piece) →
      ∀ line ∈ Line.ofPieces pieces, HoldsNoCommand line.text
  | [], _, line, listed => absurd listed List.not_mem_nil
  | [last], free, line, listed => by
      rw [Line.ofPieces] at listed
      split at listed
      · cases listed
      · obtain rfl := List.mem_singleton.mp listed
        exact free last List.mem_cons_self
  | piece :: next :: pieces, free, line, listed => by
      rw [Line.ofPieces] at listed
      rcases List.mem_cons.mp listed with rfl | later
      · exact free piece List.mem_cons_self
      · exact HoldsNoCommand.ofPieces (fun other member => free other (List.mem_cons_of_mem _ member))
          line later

theorem HoldsNoCommand.readLines {t : Text} (free : HoldsNoCommand t) :
    ∀ line ∈ readLines t, HoldsNoCommand line.text :=
  HoldsNoCommand.ofPieces fun _ listed => free.of_part (isInfix_of_mem_lines listed)

/-! ## Frames -/

/-- A frame whose lines hold no command, the marks of their containers included. -/
def Frame.HoldsNoCommand (frame : Frame) : Prop :=
  ∀ line ∈ frame.lines, Markdown.HoldsNoCommand line.text

theorem Frame.HoldsNoCommand.line {frame : Frame} (free : frame.HoldsNoCommand) (n : Nat) :
    Markdown.HoldsNoCommand (frame.line n).text := by
  unfold Frame.line
  cases found : frame.lines[n]? with
  | none => exact .nil
  | some line => exact free line (List.mem_of_getElem? found)

theorem Frame.HoldsNoCommand.body {frame : Frame} (free : frame.HoldsNoCommand) (n : Nat) :
    Markdown.HoldsNoCommand (frame.body n) :=
  (free.line n).of_part (List.drop_suffix _ _).isInfix

def Options.plain : Options := { commands := false }

section Lines

variable {frame : Frame} (options : Options) (free : frame.HoldsNoCommand)

include free

theorem Command.starts_eq_false (n : Nat) : Command.starts options frame n = false := by
  have description : Command.startsDescription frame n = false := by
    simp [Command.startsDescription, (free.body n).described]
  have directive : Command.startsDirective frame n = false := by
    simp [Command.startsDirective, (free.body n).directive]
  simp [Command.starts, description, directive]

theorem interrupts_eq_plain (inParagraph : Bool) (n : Nat) :
    interrupts options inParagraph frame n = interrupts .plain inParagraph frame n := by
  unfold interrupts
  rw [Command.starts_eq_false options free, Command.starts_eq_false .plain free]

theorem endsList_eq_plain (n : Nat) : endsList options frame n = endsList .plain frame n := by
  unfold endsList
  rw [Command.starts_eq_false options free, Command.starts_eq_false .plain free]

theorem Paragraph.findEnd_eq_plain (count : Nat) :
    ∀ n : Nat, findEnd options frame count n = findEnd .plain frame count n := by
  induction count with
  | zero => exact fun _ => rfl
  | succ count ih =>
    intro n
    rw [findEnd, findEnd, interrupts_eq_plain options free, ih]

theorem Paragraph.read_eq_plain (definitions : Definitions) (start : Nat) :
    Paragraph.read options frame definitions start =
      Paragraph.read .plain frame definitions start := by
  unfold Paragraph.read
  rw [Paragraph.findEnd_eq_plain options free]

theorem Underline.find?_eq_plain (count : Nat) :
    ∀ n : Nat, find? options frame count n = find? .plain frame count n := by
  induction count with
  | zero => exact fun _ => rfl
  | succ count ih =>
    intro n
    rw [find?, find?, interrupts_eq_plain options free, ih]

theorem Underline.read?_eq_plain (definitions : Definitions) (start stop : Nat) :
    Underline.read? options frame definitions start stop =
      Underline.read? .plain frame definitions start stop := by
  unfold Underline.read?
  rw [Underline.find?_eq_plain options free]

theorem Definition.continuations_eq_plain (count : Nat) :
    ∀ n : Nat, continuations options frame count n = continuations .plain frame count n := by
  induction count with
  | zero => exact fun _ => rfl
  | succ count ih =>
    intro n
    rw [continuations, continuations, continuation?, continuation?,
      interrupts_eq_plain options free, ih]

theorem Definition.read?_eq_plain (definitions : Definitions) (start : Nat) :
    Definition.read? options frame definitions start =
      Definition.read? .plain frame definitions start := by
  unfold Definition.read?
  rw [Definition.continuations_eq_plain options free]

theorem Quote.extent_eq_plain (count : Nat) :
    ∀ (n : Nat) (lastEmpty : Bool),
      extent options frame count n lastEmpty = extent .plain frame count n lastEmpty := by
  induction count with
  | zero => exact fun _ _ => rfl
  | succ count ih =>
    intro n lastEmpty
    rw [extent, extent, interrupts_eq_plain options free]
    simp only [ih]

theorem Items.nextMark?_eq_plain (mark : ListMark) (n stop : Nat) :
    nextMark? options frame mark n stop = nextMark? .plain frame mark n stop := by
  unfold nextMark?
  rw [endsList_eq_plain options free]

theorem Command.read?_eq_none (inner : Reader) (definitions : Definitions) (start stop : Nat) :
    Command.read? inner options frame definitions start stop = none := by
  have description : Command.readDescription? frame definitions start stop = none := by
    simp [Command.readDescription?, (free.body start).described]
  have directive : Command.readDirective? inner frame definitions start stop = none := by
    simp [Command.readDirective?, (free.body start).directive]
  simp [Command.read?, description, directive]

end Lines

/-! ## Containers -/

/-- The lines inside a quote are the lines of the frame. -/
theorem Quote.holdsNoCommand_extent {frame : Frame} (free : frame.HoldsNoCommand)
    (options : Options) (count : Nat) :
    ∀ (n : Nat) (lastEmpty : Bool), ∀ line ∈ (extent options frame count n lastEmpty).lines,
      HoldsNoCommand line.text := by
  induction count with
  | zero => exact fun _ _ line listed => absurd listed List.not_mem_nil
  | succ count ih =>
    intro n lastEmpty line listed
    rw [extent] at listed
    simp only at listed
    split at listed
    · cases listed
    · split at listed
      · rcases List.mem_cons.mp listed with rfl | later
        · exact free.line n
        · exact ih _ _ line later
      · split at listed
        · cases listed
        · split at listed
          · cases listed
          · rcases List.mem_cons.mp listed with rfl | later
            · exact free.line n
            · exact ih _ _ line later

/-- Inside a quote the lines are the same without marks, so nothing appears in them. -/
theorem Quote.holdsNoCommand_innerFrame {frame : Frame} (free : frame.HoldsNoCommand) (start : Nat)
    {quote : Extent} (inside : ∀ line ∈ quote.lines, HoldsNoCommand line.text) :
    (innerFrame frame start quote).HoldsNoCommand := by
  have after : ∀ line ∈ frame.lines.drop (start + quote.lines.length), HoldsNoCommand line.text :=
    fun line listed => free line (List.mem_of_mem_drop listed)
  intro line listed
  simp only [innerFrame, List.mem_append] at listed
  rcases listed with (before | quoted) | later
  · exact free line (List.mem_of_mem_take before)
  · exact inside line quoted
  · split at later
    · split at later
      · cases later
      · rename_i first rest split
        rw [split] at after
        rcases List.mem_cons.mp later with rfl | later
        · exact after first List.mem_cons_self
        · exact after line (List.mem_cons_of_mem _ later)
    · exact after line later

theorem Items.holdsNoCommand_innerFrame {frame : Frame} (free : frame.HoldsNoCommand) (n : Nat)
    (mark : ListMark) : (innerFrame frame n mark).HoldsNoCommand := by
  intro line listed
  rcases List.mem_or_eq_of_mem_set listed with old | rfl
  · exact free line old
  · exact free.line n

/-- Two readers that read the same from all lines without commands. -/
def Reader.Agree (inner other : Reader) : Prop :=
  ∀ frame : Frame, frame.HoldsNoCommand → ∀ (definitions : Definitions) (start stop : Nat),
    inner frame definitions start stop = other frame definitions start stop

section Containers

variable {inner other : Reader} (agree : Reader.Agree inner other) {frame : Frame}
  (options : Options) (free : frame.HoldsNoCommand)

include agree free

/-- A quote ends at what interrupts it, and a command could, but there is none. -/
theorem Quote.read?_eq_plain (definitions : Definitions) (start stop : Nat) :
    Quote.read? inner options frame definitions start stop =
      Quote.read? other .plain frame definitions start stop := by
  unfold Quote.read?
  split
  · have inside : ∀ line ∈ unmark (frame.line start) ::
        (extent .plain frame (stop - (start + 1)) (start + 1) (unmark (frame.line start)).isEmpty).lines,
        HoldsNoCommand line.text := by
      intro line listed
      rcases List.mem_cons.mp listed with rfl | later
      · exact free.line start
      · exact Quote.holdsNoCommand_extent free .plain _ _ _ line later
    simp only [Quote.extent_eq_plain options free]
    rw [agree _ (Quote.holdsNoCommand_innerFrame free start inside)]
  · rfl

theorem Items.readItem_eq (definitions : Definitions) (n stop : Nat) (mark : ListMark) :
    readItem inner frame definitions n stop mark = readItem other frame definitions n stop mark := by
  unfold readItem
  simp only
  rw [agree _ (Items.holdsNoCommand_innerFrame free n mark)]

theorem Items.readItems_eq_plain (count : Nat) :
    ∀ (definitions : Definitions) (n stop : Nat) (mark : ListMark) (loose : Bool),
      readItems inner options frame count definitions n stop mark loose =
        readItems other .plain frame count definitions n stop mark loose := by
  induction count with
  | zero => exact fun _ _ _ _ _ => rfl
  | succ count ih =>
    intro definitions n stop mark loose
    rw [readItems, readItems, Items.readItem_eq agree free, Items.nextMark?_eq_plain options free]
    simp only [ih]

theorem Items.read?_eq_plain (definitions : Definitions) (start stop : Nat) :
    Items.read? inner options frame definitions start stop =
      Items.read? other .plain frame definitions start stop := by
  unfold Items.read?
  simp only [Items.readItems_eq_plain agree options free]

/-! ## Blocks -/

theorem Block.read_eq_plain (definitions : Definitions) (start stop : Nat) :
    Block.read inner options frame definitions start stop =
      Block.read other .plain frame definitions start stop := by
  unfold Block.read
  rw [Quote.read?_eq_plain agree options free, Items.read?_eq_plain agree options free,
    Definition.read?_eq_plain options free, Underline.read?_eq_plain options free,
    Command.read?_eq_none options free, Command.read?_eq_none .plain free,
    Paragraph.read_eq_plain options free]

theorem Block.readFrom_eq_plain (count : Nat) :
    ∀ (definitions : Definitions) (n stop : Nat) (spaced tight : Bool),
      readFrom inner options frame count definitions n stop spaced tight =
        readFrom other .plain frame count definitions n stop spaced tight := by
  induction count with
  | zero => exact fun _ _ _ _ _ => rfl
  | succ count ih =>
    intro definitions n stop spaced tight
    rw [readFrom, readFrom]
    simp only [Block.read_eq_plain agree options free, ih]

end Containers

/-- Where no command can begin, commands make no difference, at any depth. -/
theorem Block.agree_readBlocks (options : Options) (fuel : Nat) :
    Reader.Agree (readBlocks options fuel) (readBlocks .plain fuel) := by
  induction fuel with
  | zero => exact fun _ _ _ _ _ => rfl
  | succ fuel ih =>
    intro frame free definitions start stop
    exact Block.readFrom_eq_plain ih options free (stop - start) definitions start stop false true

theorem readRoot_eq_plain (options : Options) {source : Text} (free : HoldsNoCommand source) :
    readRoot options source = readRoot .plain source := by
  have inside : Frame.HoldsNoCommand
      { lines := readLines (normalText source), limit := (readLines (normalText source)).length } :=
    free.normalText.readLines
  have blocks : Block.readDocument options (readLines (normalText source)) =
      Block.readDocument .plain (readLines (normalText source)) :=
    Block.agree_readBlocks options (maxDepth + 1) _ inside _ _ _
  unfold readRoot
  rw [blocks]

/-- **Commands extend Markdown conservatively.** A text with no at sign and none of the words that begin
a description has one document, whether commands are understood or not. -/
theorem read_conservative (source : Text) (free : HoldsNoCommand source) :
    ∃ tree, Markdown.read { commands := true } source = .ok tree ∧
      Markdown.read { commands := false } source = .ok tree := by
  obtain ⟨tree, read⟩ := exists_read .plain source
  refine ⟨tree, ?_, read⟩
  rw [← read, Markdown.read, Markdown.read, readRoot_eq_plain _ free]

/-- A text that comes near to commands in a paragraph, a quote, an item and a definition. -/
def nearCommands : Text :=
  "Intro\n\\para x\n\n> quoted\n\\retur\n\n- item\n  \\res ult\n\n[a]: /b\n\\Param".toList

theorem read_conservative_nearCommands :
    HoldsNoCommand nearCommands ∧
      ∃ tree, Markdown.read { commands := true } nearCommands = .ok tree ∧
        Markdown.read { commands := false } nearCommands = .ok tree := by
  have free : HoldsNoCommand nearCommands := by decide +kernel
  exact ⟨free, read_conservative nearCommands free⟩

end DocComment.Markdown
