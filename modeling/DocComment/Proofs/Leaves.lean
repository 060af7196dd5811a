/- Reading back blocks without blocks inside. Lines that open nothing make up one paragraph, up to a line
at which it stops (`Block.read_paragraph`); a heading, a thematic break and fenced code are read from
their own lines whatever follows (`Block.read_heading`, `Block.read_rule`, `Block.read_fence`). -/
import DocComment.Proofs.Showing
import Mathlib.Tactic.MkIffOfInductiveProp

namespace DocComment

set_option autoImplicit false

namespace Text

/-- What is left ends where dropping stopped. -/
theorem getLast?_dropRightWhile {drop : Char → Bool} {t : Text} {c : Char}
    (last : c ∈ (dropRightWhile drop t).getLast?) : drop c = false := by
  induction t with
  | nil => cases last
  | cons d t ih =>
      cases kept : dropRightWhile drop t with
      | nil =>
          cases out : drop d with
          | true => simp [dropRightWhile, kept, out] at last
          | false =>
              simp only [dropRightWhile, kept, out, Bool.false_eq_true, if_false] at last
              obtain rfl : d = c := by simpa using last
              exact out
      | cons e rest =>
          rw [kept] at ih
          simp only [dropRightWhile, kept] at last
          exact ih (by simpa [List.getLast?_cons_cons] using last)

theorem dropRightWhile_of_last {drop : Char → Bool} {t : Text}
    (stays : ∀ c ∈ t.getLast?, drop c = false) : dropRightWhile drop t = t := by
  induction t with
  | nil => rfl
  | cons d t ih =>
      cases t with
      | nil => simp [dropRightWhile, stays d rfl]
      | cons e rest =>
          have kept := ih fun c last => stays c (by simpa [List.getLast?_cons_cons] using last)
          rw [dropRightWhile, kept]

theorem isBlank_of_isIndent {c : Char} (indents : isIndent c = true) : isBlank c = true := by
  simp only [isIndent, Bool.or_eq_true, beq_iff_eq] at indents
  rcases indents with rfl | rfl <;> decide

theorem isIndent_of_not_blank {c : Char} (solid : isBlank c = false) : isIndent c = false := by
  cases indents : isIndent c with
  | false => rfl
  | true => rw [isBlank_of_isIndent indents] at solid; cases solid

theorem last_of_trim {t : Text} (trimmed : trim t = t) {c : Char} (last : c ∈ t.getLast?) :
    isBlank c = false := by
  rw [← trimmed] at last
  exact getLast?_dropRightWhile last

/-- A space before a trimmed text is trimmed away. -/
theorem trim_space {t : Text} (trimmed : trim t = t) : trim (' ' :: t) = t := by
  have same : trimLeft (' ' :: t) = trimLeft t := by
    rw [trimLeft, List.dropWhile_cons, if_pos (by decide), trimLeft]
  rw [trim, same]
  exact trimmed

end Text

namespace Markdown

/-! ## Lines that open nothing -/

/-- A line of a paragraph: it begins no other block, and underlines no heading. -/
@[mk_iff]
structure IsProse (line : Text) : Prop where
  solid : line.IsSolid
  fence : Fence.opening? line = none
  quote : line.head? ≠ some '>'
  rule : Rule.marks? line = none
  mark : ListMark.read? line = none
  html : Html.opening? line = none
  heading : Heading.parts? line = none
  underline : Underline.mark? line = none
  described : Described.ofLine? line = none
  directive : Directive.ofLine? line = none

instance (line : Text) : Decidable (IsProse line) := decidable_of_iff' _ (isProse_iff line)

variable {options : Options} {frame : Frame} {columns start stop : Nat} {texts : List Text}

/-- A line that goes on with the paragraph before it: nothing that it could begin interrupts one. -/
@[mk_iff]
structure Continues (line : Text) : Prop where
  solid : line.IsSolid
  fence : Fence.opening? line = none
  quote : line.head? ≠ some '>'
  rule : Rule.marks? line = none
  mark : ((ListMark.read? line).any fun mark =>
    (mark.digits.isNone || mark.number == 1) && !(line.drop mark.length).all isIndent) = false
  html : (Html.opening? line).any Html.Opening.interrupts = false
  heading : Heading.parts? line = none
  underline : Underline.mark? line = none
  described : Described.ofLine? line = none
  directive : Directive.ofLine? line = none

instance (line : Text) : Decidable (Continues line) := decidable_of_iff' _ (continues_iff line)

/-- None of the blocks that could interrupt a paragraph begins on such a line. -/
theorem Continues.interrupts_eq {n : Nat} {line : Text} (continues : Continues line)
    (solid : frame.Solid n line) : interrupts options true frame n = false := by
  have mark : ListMark.starts? true frame n = none := by
    rw [ListMark.starts?]
    split
    · rfl
    · rw [Option.filter_eq_none_iff, solid.body]
      intro mark read
      have quiet := continues.mark
      rw [read] at quiet
      simpa [solid.isOutdented] using quiet
  have html : HtmlBlock.interrupts frame n = false := by
    have quiet := continues.html
    rw [HtmlBlock.interrupts, solid.body]
    cases opening : Html.opening? line with
    | none => simp
    | some opening => simp_all
  simp only [interrupts, Fence.starts, Quote.starts, Rule.starts, mark, html, Heading.starts,
    Command.starts, Command.startsDescription, Command.startsDirective, solid.body, continues.fence,
    continues.rule, continues.heading, continues.described, continues.directive]
  simp [continues.quote]

/-! ## Paragraphs -/

/-- A paragraph stops before a line: at the limit, at an empty line, or at a line that interrupts it. -/
inductive Frame.Stops (options : Options) (frame : Frame) (n : Nat) : Prop
  | limit (ends : frame.limit ≤ n)
  | empty (empty : frame.isEmpty n = true)
  | interrupted (filled : frame.isEmpty n = false) (shallow : frame.isCode n = false)
      (marked : 0 ≤ (frame.line n).indent)
      (plain : frame.isOutdented n = true ∨ Underline.mark? (frame.body n) = none)
      (ends : interrupts options true frame n = true)

/-- By induction on the lines: each of them goes on, and the line after them stops the paragraph. -/
theorem Paragraph.findEnd_eq {count : Nat} (shows : frame.Shows columns start texts)
    (each : ∀ line ∈ texts, Continues line) (bound : start + count = frame.limit)
    (enough : texts.length ≤ count) (stops : frame.Stops options (start + texts.length)) :
    findEnd options frame count start = start + texts.length := by
  induction texts generalizing count start with
  | nil =>
      rw [List.length_nil, Nat.add_zero] at stops ⊢
      cases count with
      | zero => rfl
      | succ count =>
          cases stops with
          | limit ends => omega
          | empty empty => simp [findEnd, empty]
          | interrupted filled shallow marked plain ends =>
              have continues : continues frame start = false := by
                simp [continues, shallow, marked]
              simp [findEnd, filled, continues, ends]
  | cons line texts ih =>
      rw [List.length_cons] at enough stops ⊢
      obtain ⟨left, rfl⟩ : ∃ left, count = left + 1 := ⟨count - 1, by omega⟩
      have one := each line (List.mem_cons_self ..)
      have solid := shows.solid one.solid
      have same : start + (texts.length + 1) = start + 1 + texts.length := by omega
      have step := @ih (start + 1) left shows.tail
        (fun l member => each l (List.mem_cons_of_mem _ member)) (by omega) (by omega) (same ▸ stops)
      rw [findEnd, if_neg (by simp [solid.filled]), one.interrupts_eq solid, step, same]
      simp

/-- No line of a paragraph underlines, so the search passes them and ends where the paragraph does. -/
theorem Underline.find?_eq_none {count : Nat} (shows : frame.Shows columns start texts)
    (each : ∀ line ∈ texts, Continues line) (bound : start + count ≤ frame.limit)
    (stops : frame.Stops options (start + texts.length)) :
    find? options frame count start = none := by
  induction texts generalizing count start with
  | nil =>
      rw [List.length_nil, Nat.add_zero] at stops
      cases count with
      | zero => rfl
      | succ count =>
          cases stops with
          | limit ends => omega
          | empty empty => simp [find?, empty]
          | interrupted filled shallow marked plain ends =>
              have noMark : (if frame.isOutdented start then none else mark? (frame.body start)) =
                  none := by
                rcases plain with outdented | plain
                · rw [if_pos outdented]
                · rw [plain, ite_self]
              have marked : ¬ (frame.line start).indent < 0 := by omega
              simp [find?, filled, shallow, noMark, marked, ends]
  | cons line texts ih =>
      cases count with
      | zero => rfl
      | succ count =>
          have one := each line (List.mem_cons_self ..)
          have solid := shows.solid one.solid
          have same : start + (line :: texts).length = start + 1 + texts.length := by
            rw [List.length_cons]
            omega
          have step := @ih (start + 1) count shows.tail
            (fun l member => each l (List.mem_cons_of_mem _ member)) (by omega) (same ▸ stops)
          have noMark : (if frame.isOutdented start then none else mark? (frame.body start)) = none := by
            rw [solid.body, one.underline, ite_self]
          simp [find?, solid.filled, solid.isCode, noMark, step, one.interrupts_eq solid]

/-- A list or an HTML block that interrupts a paragraph interrupts a definition. -/
theorem interrupts_of_paragraph {n : Nat} (ends : interrupts options true frame n = true) :
    interrupts options false frame n = true := by
  have mark : (ListMark.starts? true frame n).isSome = true →
      (ListMark.starts? false frame n).isSome = true := by
    intro starts
    rw [ListMark.starts?] at starts ⊢
    split at starts
    · cases starts
    · rename_i shallow
      rw [if_neg shallow]
      cases read : ListMark.read? (frame.body n) with
      | none => simp [read] at starts
      | some mark => simp
  simp only [interrupts, Bool.or_eq_true] at ends ⊢
  rcases ends with (((((fence | quote) | rule) | list) | html) | heading) | command
  all_goals simp_all

namespace Definition

/-- Lines with their newlines, where the last one may lack it. -/
def terminate (last : Bool) : List Text → List Text
  | [] => []
  | [line] => [line ++ if last then ['\n'] else []]
  | line :: next :: rest => (line ++ ['\n']) :: terminate last (next :: rest)

/-- The definition with which some lines begin. -/
def ofLines? : List Text → Option (Definition × Nat)
  | [] => none
  | line :: more => ofCursor? { rest := line, more, taken := 0 }

/-- Nothing goes on with a definition where a paragraph stops. -/
theorem continuations_eq_nil {n count : Nat} (bound : n + count ≤ frame.limit)
    (stops : frame.Stops options n) : continuations options frame count n = [] := by
  cases count with
  | zero => rfl
  | succ count =>
      have none : continuation? options frame n = none := by
        cases stops with
        | limit ends => omega
        | empty empty => simp [continuation?, empty]
        | interrupted filled shallow marked plain ends =>
            have continues : Paragraph.continues frame n = false := by
              simp [Paragraph.continues, shallow, marked]
            simp [continuation?, filled, continues, interrupts_of_paragraph ends]
      rw [continuations, none]

/-- A definition at the head of a paragraph would be read from some of its lines. -/
theorem exists_terminate {line : Text} {count : Nat}
    (shows : frame.Shows columns start (line :: texts)) (head : line.IsSolid)
    (each : ∀ line ∈ texts, Continues line) (bound : start + 1 + count ≤ frame.limit)
    (stops : frame.Stops options (start + 1 + texts.length)) :
    ∃ last, ∃ k ≤ texts.length,
      (frame.body start ++ if (frame.line start).terminated then ['\n'] else []) ::
        continuations options frame count (start + 1) =
          terminate last ((line :: texts).take (k + 1)) := by
  induction texts generalizing start line count with
  | nil =>
      refine ⟨(frame.line start).terminated, 0, Nat.le_refl _, ?_⟩
      rw [continuations_eq_nil bound stops, (shows.solid head).body]
      rfl
  | cons next texts ih =>
      have body := (shows.solid head).body
      cases count with
      | zero => exact ⟨(frame.line start).terminated, 0, Nat.zero_le _, by rw [body]; rfl⟩
      | succ count =>
          cases more : continuation? options frame (start + 1) with
          | none =>
              -- A definition could only have the lines up to here.
              refine ⟨(frame.line start).terminated, 0, Nat.zero_le _, ?_⟩
              rw [continuations, more, body]
              rfl
          | some text =>
              obtain ⟨headNext, eachRest⟩ := List.forall_mem_cons.1 each
              have same : start + 1 + (next :: texts).length = start + 1 + 1 + texts.length := by
                rw [List.length_cons]
                omega
              obtain ⟨last, k, short, taken⟩ := @ih (start + 1) next count shows.tail headNext.solid
                eachRest (by omega) (same ▸ stops)
              obtain rfl : text = frame.body (start + 1) ++
                  if (frame.line (start + 1)).terminated then ['\n'] else [] := by
                unfold continuation? at more
                split at more
                · cases more
                · split at more
                  · cases more
                  · exact (Option.some.inj more).symm
              have step : continuations options frame (count + 1) (start + 1) =
                  terminate last ((next :: texts).take (k + 1)) := by
                rw [continuations, more]
                exact taken
              refine ⟨last, k + 1, Nat.succ_le_succ short, ?_⟩
              rw [step, shows.terminated_head (by simp), body]
              rfl

end Definition

/-- The lines of a paragraph: the first one begins nothing else, the others go on with it, none of them
belong to a link definition, and no blanks stand at the ends of the text. -/
@[mk_iff]
structure IsParagraph (texts : List Text) : Prop where
  filled : texts ≠ []
  first : ∀ line ∈ texts.head?, IsProse line
  rest : ∀ line ∈ texts.tail, Continues line
  free : ∀ k ≤ texts.length, ∀ last, Definition.ofLines? (Definition.terminate last (texts.take k)) = none
  trimmed : Text.trim (Text.unlines texts) = Text.unlines texts

instance (texts : List Text) : Decidable (IsParagraph texts) :=
  decidable_of_iff' _ (isParagraph_iff texts)

theorem IsParagraph.eq_cons (paragraph : IsParagraph texts) :
    ∃ line rest, texts = line :: rest ∧ IsProse line ∧ ∀ l ∈ rest, Continues l := by
  obtain ⟨line, rest, rfl⟩ := List.exists_cons_of_ne_nil paragraph.filled
  exact ⟨line, rest, rfl, paragraph.first line rfl, paragraph.rest⟩

theorem IsParagraph.solid (paragraph : IsParagraph texts) : ∀ line ∈ texts, line.IsSolid := by
  obtain ⟨line, rest, rfl, prose, continues⟩ := paragraph.eq_cons
  rw [List.forall_mem_cons]
  exact ⟨prose.solid, fun l member => (continues l member).solid⟩

theorem Items.read?_eq_none {inner : Reader} {definitions : Definitions} {line : Text}
    (solid : frame.Solid start line) (unmarked : ListMark.read? line = none) :
    read? inner options frame definitions start stop = none := by
  have starts : ListMark.starts? false frame start = none := by
    simp [ListMark.starts?, solid.isCode, solid.body, unmarked]
  rw [read?, starts, Option.map_none]

/-- **A paragraph is read back** up to the line at which it stops. -/
theorem Block.read_paragraph (inner : Reader) (definitions : Definitions)
    (paragraph : IsParagraph texts) (shows : frame.Shows columns start texts)
    (inside : start + texts.length ≤ frame.limit) (bound : stop ≤ frame.limit)
    (stops : frame.Stops options (start + texts.length)) :
    read inner options frame definitions start stop =
      { elements := [paragraphElement (Text.unlines texts) start (start + texts.length)]
        stop := start + texts.length
        definitions } := by
  obtain ⟨line, rest, rfl, prose, continues⟩ := paragraph.eq_cons
  have solid := shows.solid prose.solid
  have same : start + (line :: rest).length = start + 1 + rest.length := by
    rw [List.length_cons]
    omega
  have findEnd : Paragraph.findEnd options frame (frame.limit - (start + 1)) (start + 1) =
      start + (line :: rest).length := by
    rw [same] at stops inside ⊢
    exact Paragraph.findEnd_eq shows.tail continues (by omega) (by omega) stops
  have underline : Underline.find? options frame (stop - (start + 1)) (start + 1) = none := by
    rw [same] at stops inside
    exact Underline.find?_eq_none shows.tail continues (by omega) stops
  have content : Paragraph.content frame start (start + (line :: rest).length) =
      Text.unlines (line :: rest) := by
    rw [Paragraph.content, shows.indent, shows.joined_eq, paragraph.trimmed]
  have noDefinition : Definition.read? options frame definitions start = none := by
    rw [same] at stops inside
    obtain ⟨last, k, short, taken⟩ := Definition.exists_terminate shows prose.solid continues
      (show start + 1 + (frame.limit - (start + 1)) ≤ frame.limit by omega) stops
    have free := paragraph.free (k + 1) (Nat.succ_le_succ short) last
    rw [← taken] at free
    rw [Definition.read?]
    split
    · rfl
    · exact Option.map_eq_none_iff.2 free
  have items : Items.read? inner options frame definitions start stop = none :=
    Items.read?_eq_none solid prose.mark
  simp only [read, CodeBlock.read?, Fence.read?, Quote.read?, Quote.starts, Rule.read?, items,
    noDefinition, HtmlBlock.read?, Heading.read?, Underline.read?, Command.read?,
    Command.readDescription?, Command.readDirective?, solid.isCode, solid.body, prose.fence, prose.rule,
    prose.html, prose.heading, prose.described, prose.directive, underline]
  simp [prose.quote, Paragraph.read, findEnd]
  rw [← List.length_cons, content]

/-! ## Headings, thematic breaks and fenced code -/

theorem Fence.opening?_eq_none {c : Char} {t : Text} (tilde : c ≠ '~') (tick : c ≠ '`') :
    opening? (c :: t) = none := by
  simp [opening?, tilde, tick]

theorem Rule.marks?_eq_none {c : Char} {t : Text} (star : c ≠ '*') (hyphen : c ≠ '-')
    (low : c ≠ '_') : marks? (c :: t) = none := by
  simp [marks?, star, hyphen, low]

theorem ListMark.read?_eq_none {c : Char} {t : Text} (digit : isAsciiDigit c = false)
    (other : c ∉ ['*', '-', '+']) : read? (c :: t) = none := by
  simp only [List.mem_cons, List.not_mem_nil, not_or, or_false] at other
  obtain ⟨star, hyphen, plus⟩ := other
  simp [read?, ordered?, bullet?, digit, star, hyphen, plus]

/-- A thematic break of three hyphens is read back. -/
theorem Block.read_rule (inner : Reader) (definitions : Definitions)
    (shows : frame.Shows columns start [['-', '-', '-']]) :
    read inner options frame definitions start stop =
      { elements := [{ kind := .rule, tag := "hr".toList, markup := List.replicate 4 '-'
                       span := some (start, start + 1) }]
        stop := start + 1
        definitions } := by
  have solid := shows.solid (Text.isSolid_cons rfl _)
  have marks : Rule.marks? ['-', '-', '-'] = some ('-', 3) := by decide
  simp [read, CodeBlock.read?, Fence.read?, Quote.read?, Quote.starts, Rule.read?, solid.isCode,
    solid.body, Fence.opening?_eq_none, marks]

/-- The text of a heading: one line without blanks at its ends, where number signs at the end follow on
something else than a blank. -/
@[mk_iff]
structure IsTitle (title : Text) : Prop where
  line : '\n' ∉ title
  trimmed : Text.trim title = title
  unclosed : title ≠ [] → (Text.dropRightWhile (· == '#') (' ' :: title)).getLast?.any isIndent = false

instance (title : Text) : Decidable (IsTitle title) := decidable_of_iff' _ (isTitle_iff title)

/-- Number signs close a heading only after a blank, and such signs are not at the end of a title. -/
theorem Heading.dropClosing_title {title : Text} (isTitle : IsTitle title) :
    Text.trim (dropClosing (' ' :: title)) = title := by
  cases title with
  | nil => decide
  | cons c rest =>
      have kept : Text.dropRightWhile isIndent (' ' :: c :: rest) = ' ' :: c :: rest := by
        refine Text.dropRightWhile_of_last fun d member => ?_
        rw [List.getLast?_cons_cons] at member
        exact Text.isIndent_of_not_blank (Text.last_of_trim isTitle.trimmed member)
      have unclosed := isTitle.unclosed (List.cons_ne_nil c rest)
      have closing : dropClosing (' ' :: c :: rest) = ' ' :: c :: rest := by
        simp only [dropClosing, kept]
        split
        next d last =>
          rw [last] at unclosed
          rw [if_neg (by simpa using unclosed)]
        next => rfl
      rw [closing]
      exact Text.trim_space isTitle.trimmed

theorem takeWhile_replicate_cons {mark : Char} {t : Text} (other : ∀ c ∈ t.head?, c ≠ mark) (n : Nat) :
    (List.replicate n mark ++ t).takeWhile (· == mark) = List.replicate n mark := by
  induction n with
  | zero =>
      cases t with
      | nil => rfl
      | cons c t => simp [other c rfl]
  | succ n ih => simp [List.replicate_succ, ih]

theorem Heading.parts?_title {level : Nat} {title : Text} (positive : 1 ≤ level) (small : level ≤ 6)
    (isTitle : IsTitle title) :
    parts? (List.replicate level '#' ++ ' ' :: title) = some (level, title) := by
  have signs : (List.replicate level '#' ++ ' ' :: title).takeWhile (· == '#') =
      List.replicate level '#' := takeWhile_replicate_cons (by simp) level
  have rest : (List.replicate level '#' ++ ' ' :: title).drop level = ' ' :: title := by
    rw [List.drop_append]
    simp
  have indents : isIndent ' ' = true := rfl
  simp [parts?, signs, rest, positive, small, indents, Heading.dropClosing_title isTitle]

/-- A heading is read back. -/
theorem Block.read_heading (inner : Reader) (definitions : Definitions) {level : Nat} {title : Text}
    (positive : 1 ≤ level) (small : level ≤ 6) (isTitle : IsTitle title)
    (shows : frame.Shows columns start [List.replicate level '#' ++ ' ' :: title]) :
    read inner options frame definitions start stop =
      { elements := [Heading.element level title (List.replicate level '#') start (start + 1)
          (start + 1)]
        stop := start + 1
        definitions } := by
  obtain ⟨n, rfl⟩ : ∃ n, level = n + 1 := ⟨level - 1, by omega⟩
  have parts := Heading.parts?_title positive small isTitle
  rw [List.replicate_succ, List.cons_append] at shows parts
  have solid := shows.solid (Text.isSolid_cons rfl _)
  have items : Items.read? inner options frame definitions start stop = none :=
    Items.read?_eq_none solid (ListMark.read?_eq_none (by decide) (by decide))
  simp [read, CodeBlock.read?, Fence.read?, Quote.read?, Quote.starts, Rule.read?, items,
    Definition.read?, HtmlBlock.read?, Heading.read?, solid.isCode, solid.body,
    Fence.opening?_eq_none, Rule.marks?_eq_none, Html.opening?, parts]

def Fence.Opening.marks (opening : Fence.Opening) : Text :=
  List.replicate opening.length opening.mark

/-- A fence with the lines of its code: the line that opens it says what it is, and no line of the code
closes it. -/
@[mk_iff]
structure IsFence (opening : Fence.Opening) (code : List Text) : Prop where
  mark : opening.mark = '`' ∨ opening.mark = '~'
  long : 3 ≤ opening.length
  line : '\n' ∉ opening.info
  other : opening.info.head? ≠ some opening.mark
  ticks : opening.mark = '`' → '`' ∉ opening.info
  neat : ∀ line ∈ code, line.IsNeat
  inside : ∀ line ∈ code,
    4 ≤ leading line ∨ Fence.closes opening (line.dropWhile isIndent) = false

instance (opening : Fence.Opening) (code : List Text) : Decidable (IsFence opening code) :=
  decidable_of_iff' _ (isFence_iff opening code)

namespace IsFence

variable {opening : Fence.Opening} {code : List Text}

theorem takeWhile_marks (isFence : IsFence opening code) :
    (opening.marks ++ opening.info).takeWhile (· == opening.mark) = opening.marks := by
  refine takeWhile_replicate_cons (fun c head => ?_) opening.length
  rintro rfl
  exact isFence.other head

theorem marks_eq_cons (isFence : IsFence opening code) (t : Text) :
    ∃ rest, opening.marks ++ t = opening.mark :: rest := by
  obtain ⟨n, long⟩ : ∃ n, opening.length = n + 1 := ⟨opening.length - 1, by have := isFence.long; omega⟩
  rw [Fence.Opening.marks, long, List.replicate_succ, List.cons_append]
  exact ⟨_, rfl⟩

theorem solid (isFence : IsFence opening code) (t : Text) : (opening.marks ++ t).IsSolid := by
  obtain ⟨rest, begins⟩ := isFence.marks_eq_cons t
  rw [begins]
  refine Text.isSolid_cons ?_ rest
  rcases isFence.mark with tick | tilde
  · rw [tick]; rfl
  · rw [tilde]; rfl

theorem free (isFence : IsFence opening code) : '\n' ∉ opening.marks ++ opening.info := by
  simp only [List.mem_append, not_or, Fence.Opening.marks, List.mem_replicate, not_and]
  refine ⟨fun _ same => ?_, isFence.line⟩
  rcases isFence.mark with tick | tilde
  · rw [tick] at same; cases same
  · rw [tilde] at same; cases same

/-- The marks end where the information begins, since that does not begin with another mark. -/
theorem opening?_eq (isFence : IsFence opening code) :
    Fence.opening? (opening.marks ++ opening.info) = some opening := by
  have run := isFence.takeWhile_marks
  have long := isFence.long
  have drop : (opening.marks ++ opening.info).drop opening.length = opening.info := by
    rw [List.drop_append]
    simp [Fence.Opening.marks]
  have size : opening.marks.length = opening.length := by simp [Fence.Opening.marks]
  obtain ⟨c, rest, eq, -⟩ := (isFence.solid opening.info).eq_cons
  obtain rfl : c = opening.mark := by
    have first : (opening.marks ++ opening.info).head? = some opening.mark := by
      obtain ⟨n, positive⟩ : ∃ n, opening.length = n + 1 := ⟨opening.length - 1, by omega⟩
      rw [Fence.Opening.marks, positive, List.replicate_succ, List.cons_append, List.head?_cons]
    rw [eq, List.head?_cons] at first
    exact Option.some.inj first
  have kind : (opening.mark == '~' || (opening.mark == '`' && !opening.info.contains '`')) = true := by
    rcases isFence.mark with tick | tilde
    · have free := isFence.ticks tick
      simp [tick, free]
    · simp [tilde]
  unfold Fence.opening?
  rw [eq]
  simp only [← eq, run, size, drop, kind, long, decide_true, Bool.and_self, if_true]

theorem closes_marks (opening : Fence.Opening) : Fence.closes opening opening.marks = true := by
  simp [Fence.closes, Fence.Opening.marks]

/-- By induction on the code: none of its lines closes the fence, and the line of marks below does. -/
theorem findEnd_eq {count : Nat} (isFence : IsFence opening code)
    (shows : frame.Shows columns start (code ++ [opening.marks])) (enough : code.length + 1 ≤ count) :
    Fence.findEnd frame opening count start = (start + code.length, true) := by
  obtain ⟨left, rfl⟩ : ∃ left, count = left + 1 := ⟨count - 1, by omega⟩
  induction code generalizing left start with
  | nil =>
      have solidMarks := isFence.solid []
      rw [List.append_nil] at solidMarks
      have solid := shows.solid solidMarks
      have filled : (frame.line start).isEmpty = false := solid.filled
      have body : (frame.line start).body = opening.marks := solid.body
      simp [Fence.findEnd, filled, body, solid.isOutdented, solid.isCode, closes_marks]
  | cons line code ih =>
      rw [List.cons_append] at shows
      rw [List.length_cons] at enough ⊢
      have isRest : IsFence opening code :=
        { isFence with
          neat := fun l member => isFence.neat l (List.mem_cons_of_mem _ member)
          inside := fun l member => isFence.inside l (List.mem_cons_of_mem _ member) }
      obtain ⟨fewer, rfl⟩ : ∃ fewer, left = fewer + 1 := ⟨left - 1, by omega⟩
      have step := ih isRest shows.tail fewer (by omega)
      have ends := shows.terminated_head (by simp)
      have body := shows.head.body
      have within : (!(frame.line start).isEmpty && frame.isOutdented start) = false := by
        by_cases empty : line = []
        · simp [shows.head.isEmpty_eq, empty]
        · have deep := shows.head.indent_eq empty
          have level : ¬ (frame.line start).indent < frame.indent := by
            rw [deep, shows.indent]
            omega
          simp [Frame.isOutdented, level]
      have unclosed : (!frame.isCode start && Fence.closes opening (frame.line start).body) = false := by
        rw [body]
        rcases isFence.inside line (List.mem_cons_self ..) with deep | stays
        · have filled : line ≠ [] := by
            rintro rfl
            simp [leading] at deep
          have indent := shows.head.indent_eq filled
          have code : frame.isCode start = true := by
            simp only [Frame.isCode, indent, shows.indent, decide_eq_true_eq]
            omega
          simp [code]
        · simp [stays]
      rw [Fence.findEnd]
      simp only [within, ends, unclosed, Bool.not_true, Bool.and_false, Bool.false_eq_true, if_false, step]
      simp only [Prod.mk.injEq, and_true]
      omega

end IsFence

/-- Fenced code is read back. -/
theorem Block.read_fence (inner : Reader) (definitions : Definitions) {opening : Fence.Opening}
    {code : List Text} (isFence : IsFence opening code)
    (shows : frame.Shows columns start ((opening.marks ++ opening.info) :: (code ++ [opening.marks])))
    (inside : start + code.length + 2 ≤ stop) :
    read inner options frame definitions start stop =
      { elements := [{ kind := .fence, tag := "code".toList, content := code.flatMap (· ++ ['\n'])
                       markup := opening.marks, info := opening.info
                       span := some (start, start + code.length + 2) }]
        stop := start + code.length + 2
        definitions } := by
  have solidOpening := isFence.solid opening.info
  have solid := shows.solid solidOpening
  have findEnd : Fence.findEnd frame opening (stop - (start + 1)) (start + 1) =
      (start + 1 + code.length, true) := isFence.findEnd_eq shows.tail (by omega)
  have verbatim : frame.verbatim (start + 1) (start + 1 + code.length) (frame.line start).indent =
      code.flatMap (· ++ ['\n']) := by
    rw [solid.level, shows.indent]
    exact shows.tail.verbatim_eq
  have next : start + 1 + code.length + 1 = start + code.length + 2 := by omega
  simp only [read, CodeBlock.read?, Fence.read?, solid.isCode, solid.body, isFence.opening?_eq, findEnd,
    verbatim]
  simp [next, Fence.Opening.marks]

/-! ## Indented code -/

/-- The lines of indented code, which begin and end with a line that is not blank. -/
@[mk_iff]
structure IsCode (code : List Text) : Prop where
  neat : ∀ line ∈ code, line.IsNeat
  filled : code ≠ []
  first : ∀ line ∈ code.head?, line.dropWhile isIndent ≠ []
  last : ∀ line ∈ code.getLast?, line.dropWhile isIndent ≠ []

instance (code : List Text) : Decidable (IsCode code) := decidable_of_iff' _ (isCode_iff code)

/-- What is written before the lines of indented code. -/
def CodeBlock.lead : Text := List.replicate 4 ' '

namespace CodeBlock

/-- A line of indented code that is not blank is indented far enough. -/
theorem isCode_of_lead {n : Nat} {line : Text} (indent : frame.indent = (columns : Int))
    (shows : (frame.line n).Shows columns (Text.leadLine lead line))
    (filled : line.dropWhile isIndent ≠ []) : frame.isEmpty n = false ∧ frame.isCode n = true := by
  have deeper : (frame.line n).Shows (columns + 4) line := Line.Shows.deeper shows
  refine ⟨?_, ?_⟩
  · rw [Frame.isEmpty, deeper.isEmpty_eq, List.isEmpty_eq_false_iff]
    exact filled
  · have level := deeper.indent_eq (Text.ne_nil_of_filled filled)
    simp only [Frame.isCode, level, indent, decide_eq_true_eq]
    omega

theorem isEmpty_of_lead {n : Nat} {line : Text}
    (shows : (frame.line n).Shows columns (Text.leadLine lead line))
    (blank : line.dropWhile isIndent = []) : frame.isEmpty n = true := by
  have deeper : (frame.line n).Shows (columns + 4) line := Line.Shows.deeper shows
  rw [Frame.isEmpty, deeper.isEmpty_eq, blank]
  rfl

/-- Code ends where its lines end, if what comes next with content is not indented as far. -/
def Ends (frame : Frame) (n stop : Nat) : Prop :=
  n = stop ∨ frame.isEmpty n = true ∧ frame.isEmpty (n + 1) = false ∧ frame.isCode (n + 1) = false

/-- By induction on the code: an empty line is passed without being counted, and counted once a line of code
follows. -/
theorem findEnd_eq {code : List Text} {count last : Nat} (indent : frame.indent = (columns : Int))
    (shows : frame.Displays columns start (code.map (Text.leadLine lead)))
    (closed : ∀ line ∈ code.getLast?, line.dropWhile isIndent ≠ [])
    (reached : code = [] → last = start) (enough : code.length ≤ count)
    (ends : Ends frame (start + code.length) (start + count)) :
    findEnd frame count start last = start + code.length := by
  induction code generalizing count start last with
  | nil =>
      obtain rfl := reached rfl
      simp only [List.length_nil, Nat.add_zero] at ends ⊢
      rcases ends with same | ⟨empty, filled, shallow⟩
      · obtain rfl : count = 0 := by omega
        rfl
      · match count with
        | 0 => rfl
        | 1 => simp [findEnd, empty]
        | count + 2 => simp [findEnd, empty, filled, shallow]
  | cons line code ih =>
      rw [List.map_cons] at shows
      rw [List.length_cons] at enough ends ⊢
      obtain ⟨left, rfl⟩ : ∃ left, count = left + 1 := ⟨count - 1, by omega⟩
      have same : start + (code.length + 1) = start + 1 + code.length := by omega
      have bound : start + (left + 1) = start + 1 + left := by omega
      rw [same, bound] at ends
      have closedRest : ∀ l ∈ code.getLast?, l.dropWhile isIndent ≠ [] := by
        intro l member
        cases code with
        | nil => cases member
        | cons next code => exact closed l (by simpa [List.getLast?_cons_cons] using member)
      have step := fun last reached =>
        @ih (start + 1) left last shows.tail closedRest reached (by omega) ends
      by_cases blank : line.dropWhile isIndent = []
      · have more : code ≠ [] := by
          rintro rfl
          exact closed line rfl blank
        rw [findEnd, if_pos (isEmpty_of_lead shows.head blank), step last fun none => absurd none more,
          same]
      · obtain ⟨filled, deep⟩ := isCode_of_lead indent shows.head blank
        rw [findEnd, if_neg (by simp [filled]), if_pos deep, step _ fun _ => rfl, same]

end CodeBlock

/-- Indented code is read back. -/
theorem Block.read_code (inner : Reader) (definitions : Definitions) {code : List Text}
    (isCode : IsCode code) (shows : frame.Shows columns start (code.map (Text.leadLine CodeBlock.lead)))
    (inside : start + code.length ≤ stop) (ends : CodeBlock.Ends frame (start + code.length) stop) :
    read inner options frame definitions start stop =
      { elements := [{ kind := .codeBlock, tag := "code".toList, content := Text.unlines code ++ ['\n']
                       span := some (start, start + code.length) }]
        stop := start + code.length
        definitions } := by
  have joined : frame.joined start (start + code.length) (4 + frame.indent) = Text.unlines code := by
    have deeper : frame.Displays (columns + 4) start code := shows.toDisplays.deeper
    have width : 4 + frame.indent = ((columns + 4 : Nat) : Int) := by
      rw [shows.indent]
      omega
    rw [width, deeper.joined_eq]
  obtain ⟨line, rest, rfl⟩ := List.exists_cons_of_ne_nil isCode.filled
  rw [List.map_cons] at shows
  rw [List.length_cons] at inside ends joined ⊢
  obtain ⟨-, deep⟩ := CodeBlock.isCode_of_lead shows.indent shows.head (isCode.first line rfl)
  have same : start + (rest.length + 1) = start + 1 + rest.length := by omega
  have findEnd : CodeBlock.findEnd frame (stop - (start + 1)) (start + 1) (start + 1) =
      start + (rest.length + 1) := by
    have bound : start + 1 + (stop - (start + 1)) = stop := by omega
    rw [same] at ends ⊢
    refine CodeBlock.findEnd_eq shows.indent shows.toDisplays.tail (fun l member => ?_)
      (fun _ => rfl) (by omega) (bound.symm ▸ ends)
    cases rest with
    | nil => cases member
    | cons next rest => exact isCode.last l (by simpa [List.getLast?_cons_cons] using member)
  simp only [read, CodeBlock.read?, deep, findEnd, joined]
  simp

end Markdown

end DocComment
