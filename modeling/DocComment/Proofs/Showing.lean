/- What the lines of a frame show. A line shows a text after some columns if the text is what is left of
the line once the marks of outer containers and that many columns are taken off. Containers keep this:
inside an item the lines show what followed the mark and its width in spaces (`Items.shows_innerFrame`),
inside a quote what followed the brackets (`Quote.shows_innerFrame`). -/
import DocComment.Markdown.Block
import DocComment.Proofs.Lines

namespace DocComment

set_option autoImplicit false

/-- Whether a text is indented with spaces only. -/
def Text.IsNeat (t : Text) : Prop := '\t' ∉ t.takeWhile isIndent

instance (t : Text) : Decidable t.IsNeat := inferInstanceAs (Decidable (_ ∉ _))

namespace Text

/-- Whether a text begins with a character that does not indent it. -/
def IsSolid (t : Text) : Prop := t.head?.map isIndent = some false

instance (t : Text) : Decidable t.IsSolid := inferInstanceAs (Decidable (_ = _))

variable {t : Text}

theorem isSolid_cons {c : Char} (solid : isIndent c = false) (t : Text) : IsSolid (c :: t) := by
  simp [IsSolid, solid]

theorem IsSolid.eq_cons (solid : t.IsSolid) : ∃ c rest, t = c :: rest ∧ isIndent c = false := by
  cases t with
  | nil => cases solid
  | cons c rest => exact ⟨c, rest, rfl, by simpa [IsSolid] using solid⟩

theorem IsSolid.ne_nil (solid : t.IsSolid) : t ≠ [] := by
  obtain ⟨c, rest, rfl, -⟩ := solid.eq_cons
  simp

theorem IsSolid.takeWhile (solid : t.IsSolid) : t.takeWhile isIndent = [] := by
  obtain ⟨c, rest, rfl, indents⟩ := solid.eq_cons
  simp [indents]

theorem IsSolid.dropWhile (solid : t.IsSolid) : t.dropWhile isIndent = t := by
  obtain ⟨c, rest, rfl, indents⟩ := solid.eq_cons
  simp [indents]

theorem IsSolid.isNeat (solid : t.IsSolid) : t.IsNeat := by simp [IsNeat, solid.takeWhile]

theorem leadLine_of_ne {lead line : Text} (some : line ≠ []) : leadLine lead line = lead ++ line := by
  simp [leadLine, some]

theorem leadLine_spaces_nil (width : Nat) : leadLine (List.replicate width ' ') [] = [] := by
  have blank : dropRightWhile isBlank (List.replicate width ' ') = [] := by
    induction width with
    | zero => rfl
    | succ width ih =>
        rw [List.replicate_succ, dropRightWhile, ih]
        rfl
  exact blank

theorem takeWhile_spaces (width : Nat) (t : Text) :
    (List.replicate width ' ' ++ t).takeWhile isIndent =
      List.replicate width ' ' ++ t.takeWhile isIndent := by
  induction width with
  | zero => rfl
  | succ width ih =>
      rw [List.replicate_succ, List.cons_append, List.cons_append, List.takeWhile_cons, ih]
      rfl

theorem ne_nil_of_filled {line : Text} (filled : line.dropWhile isIndent ≠ []) : line ≠ [] := by
  rintro rfl
  exact filled rfl

/-- Spaces before a line that is not blank do not change what it holds. -/
theorem filled_leadLine {width : Nat} {line : Text} (filled : line.dropWhile isIndent ≠ []) :
    (leadLine (List.replicate width ' ') line).dropWhile isIndent ≠ [] := by
  rw [leadLine_of_ne (ne_nil_of_filled filled), List.dropWhile_append_of_pos]
  · exact filled
  · intro c member
    rw [List.eq_of_mem_replicate member]
    rfl

theorem isNeat_leadLine {width : Nat} {line : Text} (neat : line.IsNeat) :
    (leadLine (List.replicate width ' ') line).IsNeat := by
  cases line with
  | nil =>
      rw [leadLine_spaces_nil]
      decide
  | cons c line =>
      rw [leadLine_of_ne (by simp), IsNeat, takeWhile_spaces, List.mem_append, not_or]
      exact ⟨by simp, neat⟩

end Text

namespace Markdown

def leading (text : Text) : Nat := (text.takeWhile isIndent).length

theorem leading_of_solid {t : Text} (solid : t.IsSolid) : leading t = 0 := by
  rw [leading, solid.takeWhile, List.length_nil]

theorem drop_leading (text : Text) : text.drop (leading text) = text.dropWhile isIndent := by
  induction text with
  | nil => rfl
  | cons c text ih =>
      cases blank : isIndent c with
      | true => simpa [leading, blank] using ih
      | false => simp [leading, blank]

/-- Without tabs a column is a character. -/
theorem columnAfter_eq (column : Nat) {t : Text} (plain : '\t' ∉ t) :
    columnAfter column t = column + t.length := by
  induction t generalizing column with
  | nil => rfl
  | cons c t ih =>
      simp only [List.mem_cons, not_or] at plain
      have step : columnAfter column (c :: t) = columnAfter (column + 1) t := by
        simp [columnAfter, nextColumn, Ne.symm plain.1]
      rw [step, ih _ plain.2, List.length_cons]
      omega

namespace Line

/-- A line shows a text after some columns. An empty text is shown by a line on which nothing follows
the marks of outer containers; any other by a line on which as many characters as there are columns come
before the text, and count as its indentation. -/
inductive Shows (columns : Nat) (line : Line) : Text → Prop
  | empty (rest : line.text.drop line.start = []) : Shows columns line []
  | filled (filler : Text) {text : Text} (rest : line.text.drop line.start = filler ++ text) (some : text ≠ [])
      (width : filler.length = columns) (plain : '\t' ∉ filler) (neat : text.IsNeat)
      (shift : line.shift = columns + leading text)
      (indent : line.indent = ((columns + leading text : Nat) : Int)) : Shows columns line text

variable {columns : Nat} {line : Line} {text : Text}

theorem Shows.body (shows : line.Shows columns text) : line.body = text.dropWhile isIndent := by
  have split : line.body = (line.text.drop line.start).drop line.shift := by
    rw [Line.body, List.drop_drop]
  cases shows with
  | empty rest => rw [split, rest, List.drop_nil, List.dropWhile_nil]
  | filled filler rest some width plain neat shift indent =>
      rw [split, rest, shift, ← width, List.drop_append, ← drop_leading]
      simp

theorem Shows.isEmpty_eq (shows : line.Shows columns text) :
    line.isEmpty = (text.dropWhile isIndent).isEmpty := by
  rw [Line.isEmpty, shows.body]

theorem Shows.indent_eq (shows : line.Shows columns text) (some : text ≠ []) :
    line.indent = ((columns + leading text : Nat) : Int) := by
  cases shows with
  | empty rest => exact absurd rfl some
  | filled filler rest some width plain neat shift indent => exact indent

/-- Spaces fill one column each, so as many are taken as there are columns to fill. -/
theorem dedent_filler {columns column width shift : Nat} {filler text : Text}
    (plain : '\t' ∉ filler) (enough : width + filler.length = columns)
    (counted : filler.length ≤ shift) :
    dedent columns column width shift (filler ++ text) = text := by
  induction filler generalizing width shift with
  | nil =>
      obtain rfl : width = columns := by simpa using enough
      cases text with
      | nil => simp [dedent]
      | cons c text => simp [dedent]
  | cons c filler ih =>
      simp only [List.mem_cons, not_or] at plain
      simp only [List.length_cons] at enough counted
      have more : (width : Int) < columns := by omega
      have left : 0 < shift := by omega
      rw [List.cons_append, dedent, if_pos more, if_neg (Ne.symm plain.1), if_pos (.inr left)]
      exact ih plain.2 (by omega) (by omega)

/-- The text that a line shows is its content at these columns. -/
theorem Shows.content_eq (shows : line.Shows columns text) : line.content columns = text := by
  cases shows with
  | empty rest => simp [Line.content, rest, dedent]
  | filled filler rest some width plain neat shift indent =>
      rw [Line.content, rest]
      exact dedent_filler plain (by omega) (by omega)

/-- A line that shows a text after spaces shows it alone further to the right. -/
theorem Shows.deeper {width : Nat}
    (shows : line.Shows columns (Text.leadLine (List.replicate width ' ') text)) :
    line.Shows (columns + width) text := by
  by_cases some : text = []
  · rw [some, Text.leadLine_spaces_nil] at shows
    rw [some]
    cases shows with
    | empty rest => exact .empty rest
    | filled _ _ some => exact absurd rfl some
  · rw [Text.leadLine_of_ne some] at shows
    generalize led : List.replicate width ' ' ++ text = all at shows
    cases shows with
    | empty rest => simp [some] at led
    | filled filler rest _ fills plain neat shift indent =>
        subst led
        have blanks := Text.takeWhile_spaces width text
        have wider : leading (List.replicate width ' ' ++ text) = width + leading text := by
          simp [leading, blanks]
        rw [Text.IsNeat, blanks] at neat
        rw [wider, ← Nat.add_assoc] at shift indent
        refine .filled (filler ++ List.replicate width ' ') (by simpa using rest) some
          (by simp [fills]) ?_ (fun member => neat (List.mem_append_right _ member)) shift indent
        simp only [List.mem_append, not_or, List.mem_replicate]
        exact ⟨plain, fun ⟨_, tab⟩ => by cases tab⟩

theorem shows_ofText (terminated : Bool) (neat : text.IsNeat) :
    (ofText terminated text).Shows 0 text := by
  by_cases some : text = []
  · exact some ▸ .empty rfl
  · refine .filled [] rfl some rfl (by simp) neat ?_ ?_
    · simp [ofText, leading]
    · simp [ofText, leading, columnAfter_eq 0 neat]

end Line

namespace Frame

/-- From a line on the lines of a frame show texts after some columns, and every line but the last of
them ends with a newline. -/
structure Displays (frame : Frame) (columns start : Nat) (texts : List Text) : Prop where
  shown : ∀ i text, texts[i]? = some text → (frame.line (start + i)).Shows columns text
  ended : ∀ i, i + 1 < texts.length → (frame.line (start + i)).terminated = true

/-- From a line on a frame shows texts at its own indentation. -/
structure Shows (frame : Frame) (columns start : Nat) (texts : List Text) : Prop
    extends frame.Displays columns start texts where
  indent : frame.indent = (columns : Int)

variable {frame : Frame} {columns start : Nat} {texts : List Text}

theorem Displays.left {more : List Text} (shows : frame.Displays columns start (texts ++ more)) :
    frame.Displays columns start texts where
  shown i text found := by
    refine shows.shown i text ?_
    rw [List.getElem?_append_left (List.getElem?_eq_some_iff.1 found).1, found]
  ended i below := shows.ended i (by rw [List.length_append]; omega)

theorem Displays.right {more : List Text} (shows : frame.Displays columns start (texts ++ more)) :
    frame.Displays columns (start + texts.length) more where
  shown i text found := by
    rw [Nat.add_assoc]
    refine shows.shown (texts.length + i) text ?_
    rw [List.getElem?_append_right (by omega), Nat.add_sub_cancel_left, found]
  ended i below := by
    rw [Nat.add_assoc]
    exact shows.ended (texts.length + i) (by rw [List.length_append]; omega)

theorem Displays.head {text : Text} (shows : frame.Displays columns start (text :: texts)) :
    (frame.line start).Shows columns text := shows.shown 0 text rfl

theorem Displays.tail {text : Text} (shows : frame.Displays columns start (text :: texts)) :
    frame.Displays columns (start + 1) texts :=
  @Displays.right frame columns start [text] texts shows

theorem Displays.terminated_head {text : Text} (shows : frame.Displays columns start (text :: texts))
    (more : texts ≠ []) : (frame.line start).terminated = true :=
  shows.ended 0 (by simpa using List.length_pos_iff.2 more)

theorem Shows.left {more : List Text} (shows : frame.Shows columns start (texts ++ more)) :
    frame.Shows columns start texts := ⟨shows.toDisplays.left, shows.indent⟩

theorem Shows.right {more : List Text} (shows : frame.Shows columns start (texts ++ more)) :
    frame.Shows columns (start + texts.length) more := ⟨shows.toDisplays.right, shows.indent⟩

theorem Shows.tail {text : Text} (shows : frame.Shows columns start (text :: texts)) :
    frame.Shows columns (start + 1) texts := ⟨shows.toDisplays.tail, shows.indent⟩

/-- Below the first group of a stack, and the empty line after it, stand the others. -/
theorem Shows.stack_tail {loose : Bool} {group next : List Text} {groups : List (List Text)}
    (shows : frame.Shows columns start (Text.stack loose (group :: next :: groups))) :
    frame.Shows columns (start + group.length + loose.toNat) (Text.stack loose (next :: groups)) := by
  rw [Text.stack_cons_cons] at shows
  have below := shows.right.right
  cases loose with
  | false => exact below
  | true => exact below

/-- Lines that show texts after spaces show them alone further to the right. -/
theorem Displays.deeper {width : Nat}
    (shows : frame.Displays columns start (texts.map (Text.leadLine (List.replicate width ' ')))) :
    frame.Displays (columns + width) start texts where
  shown i text found := by
    refine Line.Shows.deeper (shows.shown i _ ?_)
    rw [List.getElem?_map, found]
    rfl
  ended i below := shows.ended i (by rw [List.length_map]; exact below)

theorem range_succ (first count : Nat) :
    range first (first + (count + 1)) = first :: range (first + 1) (first + 1 + count) := by
  simp only [range, Nat.add_sub_cancel_left, List.range_succ_eq_map, List.map_cons, List.map_map,
    Nat.add_zero, List.cons.injEq, true_and]
  refine List.map_congr_left fun i _ => ?_
  simp only [Function.comp_apply]
  omega

theorem range_append (first count more : Nat) :
    range first (first + (count + more)) =
      range first (first + count) ++ range (first + count) (first + count + more) := by
  simp only [range, Nat.add_sub_cancel_left, List.range_add, List.map_append, List.map_map]
  congr 1
  refine List.map_congr_left fun i _ => ?_
  simp only [Function.comp_apply]
  omega

theorem range_self (first : Nat) : range first first = [] := by simp [range]

theorem Displays.joined_eq (shows : frame.Displays columns start texts) :
    frame.joined start (start + texts.length) columns = Text.unlines texts := by
  have each : (range start (start + texts.length)).map (fun n => (frame.line n).content columns) =
      texts := by
    induction texts generalizing start with
    | nil => simp [range_self]
    | cons text texts ih =>
        rw [List.length_cons, range_succ, List.map_cons, ih shows.tail, shows.head.content_eq]
  rw [joined, each]

/-- Lines that a further line follows are kept with their newlines. -/
theorem Displays.verbatim_eq {last : Text} (shows : frame.Displays columns start (texts ++ [last])) :
    frame.verbatim start (start + texts.length) columns = texts.flatMap (· ++ ['\n']) := by
  unfold verbatim
  induction texts generalizing start with
  | nil => simp [range_self]
  | cons text texts ih =>
      rw [List.cons_append] at shows
      have ends := shows.terminated_head (by simp)
      rw [List.length_cons, range_succ, List.flatMap_cons, List.flatMap_cons, ih shows.tail]
      simp [shows.head.content_eq, ends]

theorem line_set {n m : Nat} {line : Line} (inside : n < frame.lines.length) :
    Frame.line { frame with lines := frame.lines.set n line } m =
      if m = n then line else frame.line m := by
  by_cases same : m = n
  · subst same
    simp [Frame.line, inside]
  · simp [Frame.line, List.getElem?_set_ne (Ne.symm same), same]

/-- A line with content is one of the lines of the frame. -/
theorem lt_length_of_body {n : Nat} (filled : frame.isEmpty n = false) : n < frame.lines.length := by
  refine Nat.lt_of_not_le fun outside => ?_
  simp [isEmpty, Frame.line, List.getElem?_eq_none outside, Line.isEmpty, Line.body,
    Line.absent] at filled

/-- A line that shows a text that is not blank belongs to the frame. -/
theorem Shows.filled {text : Text} (shows : frame.Shows columns start (text :: texts))
    (filled : text.dropWhile isIndent ≠ []) :
    frame.isEmpty start = false ∧ frame.isOutdented start = false := by
  refine ⟨?_, ?_⟩
  · rw [isEmpty, shows.head.isEmpty_eq, List.isEmpty_eq_false_iff]
    exact filled
  · have level := shows.head.indent_eq (Text.ne_nil_of_filled filled)
    simp only [isOutdented, level, shows.indent, decide_eq_false_iff_not]
    omega

/-- A line that shows a solid text at the indentation of the frame. -/
structure Solid (frame : Frame) (n : Nat) (text : Text) : Prop where
  body : frame.body n = text
  filled : frame.isEmpty n = false
  level : (frame.line n).indent = frame.indent

theorem Shows.solid {text : Text} (shows : frame.Shows columns start (text :: texts))
    (solid : text.IsSolid) : frame.Solid start text := by
  have body : (frame.line start).body = text := by rw [shows.head.body, solid.dropWhile]
  refine ⟨body, ?_, ?_⟩
  · simp [isEmpty, Line.isEmpty, body, solid.ne_nil]
  · rw [shows.head.indent_eq solid.ne_nil, leading_of_solid solid, shows.indent, Nat.add_zero]

theorem Solid.isCode {n : Nat} {text : Text} (solid : frame.Solid n text) : frame.isCode n = false := by
  simp [Frame.isCode, solid.level]

theorem Solid.isOutdented {n : Nat} {text : Text} (solid : frame.Solid n text) :
    frame.isOutdented n = false := by
  simp [Frame.isOutdented, solid.level]

end Frame

/-! ## Inside an item -/

namespace ListMark

def text (mark : ListMark) : Text := mark.digits.getD [] ++ [mark.sign]

/-- The marks that rendering writes: a hyphen, or up to nine digits with a point or a parenthesis. -/
inductive Written : ListMark → Prop
  | bullet : Written { digits := none, sign := '-' }
  | ordered {digits : Text} {sign : Char} (figures : ∀ c ∈ digits, isAsciiDigit c = true)
      (filled : digits ≠ []) (short : digits.length ≤ 9) (ends : sign = '.' ∨ sign = ')') :
      Written { digits := some digits, sign }

theorem length_text (mark : ListMark) : mark.text.length = mark.length := by
  simp [text, length]

theorem isIndent_of_digit {c : Char} (digit : isAsciiDigit c = true) : isIndent c = false := by
  cases indents : isIndent c with
  | false => rfl
  | true =>
      simp only [isIndent, Bool.or_eq_true, beq_iff_eq] at indents
      rcases indents with rfl | rfl <;> cases digit

variable {mark : ListMark}

theorem Written.solid (written : mark.Written) (t : Text) : (mark.text ++ t).IsSolid := by
  cases written with
  | bullet => exact Text.isSolid_cons rfl _
  | @ordered digits sign figures filled short ends =>
      cases digits with
      | nil => exact absurd rfl filled
      | cons c rest =>
          exact Text.isSolid_cons (isIndent_of_digit (figures c (List.mem_cons_self ..))) _

theorem Written.plain (written : mark.Written) : '\t' ∉ mark.text ∧ '\n' ∉ mark.text := by
  cases written with
  | bullet => decide
  | @ordered digits sign figures filled short ends =>
      have digit : ∀ c, isAsciiDigit c = false → c ≠ sign → c ∉ digits ++ [sign] := by
        intro c other differs member
        rcases List.mem_append.1 member with member | member
        · rw [figures c member] at other
          cases other
        · exact differs (List.mem_singleton.1 member)
      rcases ends with rfl | rfl <;>
        exact ⟨digit '\t' (by decide) (by decide), digit '\n' (by decide) (by decide)⟩

end ListMark

namespace Items

variable {frame : Frame} {mark : ListMark} {columns start : Nat} {text : Text} {texts : List Text}

/-- Taking the mark off its line leaves what follows the mark and one space. -/
theorem shows_unmark {line : Line} (written : mark.Written) (solid : text.IsSolid)
    (shows : line.Shows columns (mark.text ++ ' ' :: text)) :
    (unmark line mark).1.Shows (columns + (mark.length + 1)) text ∧
      (unmark line mark).2 = ((columns + (mark.length + 1) : Nat) : Int) := by
  have solidAll := written.solid (' ' :: text)
  have body : line.body = mark.text ++ ' ' :: text := by rw [shows.body, solidAll.dropWhile]
  have after : line.body.drop mark.length = ' ' :: text := by
    rw [body, ← ListMark.length_text, List.drop_left]
  have blanks : (' ' :: text).takeWhile isIndent = [' '] := by
    rw [List.takeWhile_cons, if_pos (show isIndent ' ' = true from rfl), solid.takeWhile]
  have indent := shows.indent_eq solidAll.ne_nil
  rw [leading_of_solid solidAll, Nat.add_zero] at indent
  have more : ¬ (1 = (' ' :: text).length) := by
    have := List.length_pos_iff.2 solid.ne_nil
    simp only [List.length_cons]
    omega
  have column : columnAfter (columns + mark.length + line.column) [' '] - line.column =
      columns + mark.length + 1 := by
    rw [columnAfter_eq _ (by decide), List.length_singleton]
    omega
  generalize read : mark.text ++ ' ' :: text = all at shows
  cases shows with
  | empty rest => simp at read
  -- The mark and its space become part of what stands before the content.
  | filled filler rest _ width plain _ shift _ =>
      subst read
      rw [leading_of_solid solidAll, Nat.add_zero] at shift
      unfold unmark
      simp only [after, blanks, indent, Int.toNat_natCast, column, List.length_singleton]
      refine ⟨.filled (filler ++ (mark.text ++ [' '])) (by simpa using rest) solid.ne_nil
        ?_ ?_ solid.isNeat ?_ ?_, ?_⟩
      · simp only [List.length_append, List.length_singleton, ListMark.length_text]
        omega
      · simp [plain, written.plain.1]
      · show line.shift + mark.length + 1 = _
        rw [leading_of_solid solid]
        omega
      · show ((columns + mark.length + 1 : Nat) : Int) = _
        rw [leading_of_solid solid]
        omega
      · rw [if_neg (by omega)]
        omega

theorem line_innerFrame (inside : start < frame.lines.length) (m : Nat) :
    (innerFrame frame start mark).line m =
      if m = start then (unmark (frame.line start) mark).1 else frame.line m :=
  Frame.line_set inside

/-- **Inside an item** the frame shows what followed the mark, and below it what was indented as far. -/
theorem shows_innerFrame (written : mark.Written) (solid : text.IsSolid)
    (shows : frame.Shows columns start (Text.leadFrom (mark.text ++ [' '])
      (List.replicate (mark.length + 1) ' ') (text :: texts))) :
    (innerFrame frame start mark).Shows (columns + (mark.length + 1)) start (text :: texts) := by
  rw [Text.leadFrom, Text.leadLine_of_ne solid.ne_nil, List.append_assoc] at shows
  have inside := Frame.lt_length_of_body (shows.solid (written.solid _)).filled
  have first := shows_unmark written solid shows.head
  have deeper := shows.toDisplays.tail.deeper
  refine ⟨⟨?_, ?_⟩, first.2⟩
  · intro i shown found
    rw [line_innerFrame inside]
    cases i with
    | zero =>
        obtain rfl : text = shown := by simpa using found
        simpa using first.1
    | succ i =>
        have apart : start + (i + 1) ≠ start := by omega
        have below := deeper.shown i shown (by simpa using found)
        rw [if_neg apart]
        rwa [Nat.add_assoc, Nat.add_comm 1] at below
  · intro i below
    have ends := shows.ended i (by simpa using below)
    rw [line_innerFrame inside]
    split
    · rename_i same
      rw [same] at ends
      exact ends
    · exact ends

end Items

/-! ## Inside a quote -/

namespace Quote

def lead : Text := ['>', ' ']

theorem leadLine_lead (text : Text) :
    ∃ rest, Text.leadLine lead text = '>' :: rest ∧ (text = [] ∧ rest = [] ∨ rest = ' ' :: text) := by
  cases text with
  | nil => exact ⟨[], by decide, .inl ⟨rfl, rfl⟩⟩
  | cons c text => exact ⟨' ' :: c :: text, rfl, .inr rfl⟩

theorem solid_leadLine (text : Text) : (Text.leadLine lead text).IsSolid := by
  obtain ⟨rest, led, -⟩ := leadLine_lead text
  exact led ▸ Text.isSolid_cons rfl rest

variable {frame : Frame} {columns start : Nat} {text : Text} {texts : List Text}

/-- Taking the bracket off a line leaves what follows it and one space. -/
theorem shows_unmark {line : Line} (neat : text.IsNeat)
    (shows : line.Shows columns (Text.leadLine lead text)) : (unmark line).Shows 0 text := by
  have solid := solid_leadLine text
  obtain ⟨after, led, shape⟩ := leadLine_lead text
  generalize read : Text.leadLine lead text = all at shows
  cases shows with
  | empty rest => rw [read] at solid; exact absurd rfl solid.ne_nil
  | filled filler rest _ width plain _ shift _ =>
      subst read
      rw [leading_of_solid solid, Nat.add_zero] at shift
      have behind : line.text.drop (line.start + line.shift + 1) = after := by
        rw [led] at rest
        rw [← List.drop_drop, ← List.drop_drop, rest, shift, ← width, List.drop_left]
        rfl
      rcases shape with ⟨rfl, rfl⟩ | rfl
      · refine .empty ?_
        simp only [unmark, behind, Nat.add_zero]
      · have left : line.text.drop (line.start + line.shift + 1 + 1) = text := by
          rw [← List.drop_drop, behind]
          rfl
        by_cases some : text = []
        · subst some
          refine .empty ?_
          simpa only [unmark, behind] using left
        · refine .filled [] ?_ some rfl (by simp) neat ?_ ?_
          · rw [List.nil_append]
            simpa only [unmark, behind] using left
          · simp [unmark, behind, leading]
          · simp only [unmark, behind, List.drop_succ_cons, List.drop_zero, columnAfter_eq _ neat,
              Nat.add_sub_cancel_left, leading, Nat.zero_add]

/-- The lines that begin with brackets make up the quote, if an empty line or nothing follows. -/
theorem extent_eq (options : Options) (frame : Frame) {count : Nat} (lastEmpty : Bool)
    (shows : frame.Shows columns start (texts.map (Text.leadLine lead)))
    (ends : count = texts.length ∨ texts.length < count ∧ frame.isEmpty (start + texts.length) = true) :
    extent options frame count start lastEmpty =
      { lines := (Frame.range start (start + texts.length)).map fun n => unmark (frame.line n) } := by
  induction texts generalizing count start lastEmpty with
  | nil =>
      rw [List.length_nil, Nat.add_zero, Frame.range_self]
      rcases ends with rfl | ⟨more, empty⟩
      · rfl
      · obtain ⟨left, rfl⟩ := Nat.exists_eq_succ_of_ne_zero (Nat.ne_of_gt more)
        have empty : (frame.line start).isEmpty = true := empty
        simp [extent, empty]
  | cons text texts ih =>
      rw [List.map_cons] at shows
      obtain ⟨after, led, -⟩ := leadLine_lead text
      have first := shows.solid (solid_leadLine text)
      obtain ⟨left, rfl⟩ : ∃ left, count = left + 1 := by
        rw [List.length_cons] at ends
        exact ⟨count - 1, by omega⟩
      have filled : (frame.line start).isEmpty = false := first.filled
      have body : (frame.line start).body = '>' :: after := first.body.trans led
      have step := @ih (start + 1) left (unmark (frame.line start)).isEmpty shows.tail (by
        rw [List.length_cons] at ends
        rw [Nat.add_assoc, Nat.add_comm 1]
        rcases ends with same | ⟨more, empty⟩
        · exact .inl (by omega)
        · exact .inr ⟨by omega, empty⟩)
      simp only [extent, filled, body, first.isOutdented, step, List.length_cons, Frame.range_succ,
        List.map_cons]
      rfl

/-- The extent of a quote that is not interrupted. -/
def extentOf (frame : Frame) (start count : Nat) : Extent :=
  { lines := (Frame.range start (start + count)).map fun n => unmark (frame.line n) }

/-- The lines of a quote are seen without their marks; those around it are left as they are. -/
theorem line_innerFrame {count : Nat} (inside : start + count ≤ frame.lines.length) (m : Nat) :
    (innerFrame frame start (extentOf frame start count)).line m =
      if start ≤ m ∧ m < start + count then unmark (frame.line m) else frame.line m := by
  have size : (extentOf frame start count).lines.length = count := by
    simp [extentOf, Frame.range]
  have before : (frame.lines.take start).length = start := by
    rw [List.length_take]
    omega
  have lines : (innerFrame frame start (extentOf frame start count)).lines =
      frame.lines.take start ++ ((extentOf frame start count).lines ++ frame.lines.drop (start + count)) := by
    have calm : (extentOf frame start count).interrupted = false := rfl
    simp [innerFrame, size, calm]
  rw [Frame.line, lines]
  by_cases early : m < start
  · rw [if_neg (by omega), List.getElem?_append_left (by omega), List.getElem?_take_of_lt early]
    rfl
  rw [List.getElem?_append_right (by omega), before]
  by_cases late : m < start + count
  · have number : (Frame.range start (start + count))[m - start]? = some m := by
      have below : m - start < count := by omega
      simp [Frame.range, below]
      omega
    rw [if_pos ⟨by omega, late⟩, List.getElem?_append_left (by omega), extentOf, List.getElem?_map,
      number]
    rfl
  · have number : start + count + (m - start - count) = m := by omega
    rw [if_neg (by omega), List.getElem?_append_right (by omega), size, List.getElem?_drop, number]
    rfl

theorem length_innerFrame {count : Nat} (inside : start + count ≤ frame.lines.length) :
    (innerFrame frame start (extentOf frame start count)).lines.length = frame.lines.length := by
  have calm : (extentOf frame start count).interrupted = false := rfl
  have size : (extentOf frame start count).lines.length = count := by
    simp [extentOf, Frame.range]
  simp only [innerFrame, calm, size, Bool.false_eq_true, if_false, List.length_append, List.length_take,
    List.length_drop]
  omega

/-- **Inside a quote** the frame shows what followed the brackets. -/
theorem shows_innerFrame (neat : ∀ text ∈ texts, text.IsNeat)
    (shows : frame.Shows columns start (texts.map (Text.leadLine lead)))
    (inside : start + texts.length ≤ frame.lines.length) :
    (innerFrame frame start (extentOf frame start texts.length)).Shows 0 start texts := by
  refine ⟨⟨?_, ?_⟩, rfl⟩
  · intro i text found
    have below := (List.getElem?_eq_some_iff.1 found).1
    rw [line_innerFrame inside, if_pos ⟨by omega, by omega⟩]
    refine shows_unmark (neat text (List.mem_of_getElem? found)) (shows.shown i _ ?_)
    rw [List.getElem?_map, found]
    rfl
  · intro i below
    rw [line_innerFrame inside, if_pos ⟨by omega, by omega⟩]
    exact shows.ended i (by rw [List.length_map]; exact below)

end Quote

end Markdown

end DocComment
