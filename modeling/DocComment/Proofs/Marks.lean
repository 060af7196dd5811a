/- Lines that begin with the mark of an item. Before a line of a paragraph a mark is read as what it is
(`ListMark.Written.read?_eq`) and as nothing else (`ListMark.Written.isMarked`). So a list begins there,
a paragraph before it ends there if the list may interrupt one (`ListMark.interrupts_of_solid`), and a
list of the same kind goes on (`ListMark.nextMark?_of_solid`). -/
import DocComment.Proofs.Leaves

namespace DocComment.Markdown

set_option autoImplicit false

/-- Every word for a description begins with a backslash. -/
theorem Described.ofLine?_eq_none {c : Char} {t : Text} (other : c ≠ '\\') :
    Described.ofLine? (c :: t) = none := by
  have after : ∀ word : Text, Text.after? ('\\' :: word) (c :: t) = none := fun word => by
    rw [Text.after?, if_neg (Ne.symm other)]
  have parameter : parameterOf? (c :: t) = none := by
    unfold parameterOf?
    rw [show "\\param".toList = '\\' :: "param".toList from rfl, after]
    rfl
  have result : resultOf? (c :: t) = none := by
    unfold resultOf?
    rw [show ["\\returns".toList, "\\return".toList, "\\result".toList] =
      [ '\\' :: "returns".toList, '\\' :: "return".toList, '\\' :: "result".toList] from rfl]
    simp only [List.findSome?_cons, after, List.findSome?_nil]
    rfl
  rw [ofLine?, parameter, result]
  rfl

theorem Directive.ofLine?_eq_none {c : Char} {t : Text} (other : c ≠ '@') :
    Directive.ofLine? (c :: t) = none := by
  unfold ofLine?
  split
  · rename_i same
    exact absurd (List.cons.inj same).1 other
  · rfl

namespace ListMark

variable {mark : ListMark}

theorem ne_of_digit {c d : Char} (digit : isAsciiDigit c = true) (plain : isAsciiDigit d = false) :
    c ≠ d := by
  rintro rfl
  rw [digit] at plain
  cases plain

theorem takeWhile_digits {digits : Text} {c : Char} {t : Text}
    (figures : ∀ d ∈ digits, isAsciiDigit d = true) (ends : isAsciiDigit c = false) :
    (digits ++ c :: t).takeWhile isAsciiDigit = digits := by
  rw [List.takeWhile_append_of_pos figures, List.takeWhile_cons, if_neg (by simp [ends]),
    List.append_nil]

/-- A mark before a space is read as what it is. -/
theorem Written.read?_eq (written : mark.Written) (t : Text) :
    (if mark.digits.isSome then ordered? (mark.text ++ ' ' :: t) else bullet? (mark.text ++ ' ' :: t)) =
        some mark ∧
      read? (mark.text ++ ' ' :: t) = some mark := by
  cases written with
  | bullet =>
      have bullet : bullet? ('-' :: ' ' :: t) = some { digits := none, sign := '-' } := by
        simp [bullet?, endsBefore, isIndent]
      have none : ordered? ('-' :: ' ' :: t) = none := by simp [ordered?, isAsciiDigit]
      exact ⟨bullet, by simp [read?, text, bullet, none]⟩
  | @ordered digits sign figures filled short ends =>
      have plain : isAsciiDigit sign = false := by rcases ends with rfl | rfl <;> decide
      have body : ListMark.text { digits := some digits, sign } ++ ' ' :: t = digits ++ sign :: ' ' :: t := by
        simp [text]
      have run := @takeWhile_digits digits sign (' ' :: t) figures plain
      have kind : (sign == '.' || sign == ')') = true := by rcases ends with rfl | rfl <;> decide
      have some : 1 ≤ digits.length := List.length_pos_iff.2 filled
      have ordered : ordered? (digits ++ sign :: ' ' :: t) =
          Option.some { digits := Option.some digits, sign } := by
        simp [ordered?, run, kind, some, short, endsBefore, isIndent]
      exact ⟨by simp [body, ordered], by simp [read?, body, ordered]⟩

/-- A mark of one kind is not read as one of the other kind. -/
theorem Written.other?_eq_none (written : mark.Written) (t : Text) :
    (if mark.digits.isSome then bullet? (mark.text ++ ' ' :: t) else ordered? (mark.text ++ ' ' :: t)) =
      none := by
  cases written with
  | bullet => simp [text, ordered?, isAsciiDigit]
  | @ordered digits sign figures filled short ends =>
      cases digits with
      | nil => exact absurd rfl filled
      | cons c rest =>
          have ne := fun d plain => @ne_of_digit c d (figures c (List.mem_cons_self ..)) plain
          simp [text, bullet?, ne '-' (by decide), ne '+' (by decide), ne '*' (by decide)]

/-- The mark of the next item continues the list. -/
theorem Written.next?_eq {other : ListMark} (written : other.Written)
    (kind : other.digits.isSome = mark.digits.isSome) (sign : other.sign = mark.sign) (t : Text) :
    mark.next? (other.text ++ ' ' :: t) = some other := by
  rw [next?, ← kind, (written.read?_eq t).1]
  simp [sign]

/-- Before a line of a paragraph a hyphen does not make a thematic break. -/
theorem marks?_hyphen {line : Text} (prose : IsProse line) : Rule.marks? ('-' :: ' ' :: line) = none := by
  obtain ⟨c, rest, rfl, solid⟩ := prose.solid.eq_cons
  by_cases other : c = '-'
  · subst other
    have mark := prose.mark
    cases rest with
    | nil => cases mark
    | cons d rest =>
        have solidNext : isIndent d = false := by
          cases indents : isIndent d with
          | false => rfl
          | true => simp [read?, bullet?, ordered?, endsBefore, indents, isAsciiDigit] at mark
        by_cases again : d = '-'
        · subst again
          by_cases marks : rest.all (fun c => c == '-' || isIndent c) = true
          · -- Two hyphens and blanks would underline what stands before them.
            have rule := prose.rule
            have free : '-' ∉ rest := by
              intro member
              have := List.count_pos_iff.2 member
              simp only [Rule.marks?, List.all_cons, marks, List.count_cons_self, beq_self_eq_true,
                Bool.or_true, Bool.true_or, Bool.and_self, if_true, ite_eq_right_iff, reduceCtorEq,
                imp_false] at rule
              omega
            have blanks : rest.all isIndent = true := by
              simp only [List.all_eq_true] at marks ⊢
              intro x member
              have kind := marks x member
              have different : x ≠ '-' := fun same => free (same ▸ member)
              simpa [different] using kind
            have underline := prose.underline
            have rest' : rest.dropWhile (· == '-') = rest := by
              cases rest with
              | nil => rfl
              | cons x rest =>
                  have different : x ≠ '-' := fun same => free (same ▸ List.mem_cons_self ..)
                  simp [different]
            simp [Underline.mark?, rest', blanks] at underline
          · simp [Rule.marks?, marks]
        · simp [Rule.marks?, again, solidNext]
  · simp [Rule.marks?, other, solid]

/-- A line that begins with a mark begins nothing else, and underlines nothing. -/
structure IsMarked (row : Text) : Prop where
  fence : Fence.opening? row = none
  quote : row.head? ≠ some '>'
  rule : Rule.marks? row = none
  underline : Underline.mark? row = none
  described : Described.ofLine? row = none
  directive : Directive.ofLine? row = none

/-- A hyphen or a number before a line of a paragraph begins a list and nothing else. -/
theorem Written.isMarked {line : Text} (written : mark.Written) (prose : IsProse line) :
    IsMarked (mark.text ++ ' ' :: line) := by
  cases written with
  | bullet =>
      have underline : Underline.mark? ('-' :: ' ' :: line) = none := by
        obtain ⟨c, rest, rfl, indents⟩ := prose.solid.eq_cons
        simp [Underline.mark?, indents]
      exact ⟨Fence.opening?_eq_none (by decide) (by decide), by simp [text], marks?_hyphen prose, underline,
        Described.ofLine?_eq_none (by decide), Directive.ofLine?_eq_none (by decide)⟩
  | @ordered digits sign figures filled short ends =>
      cases digits with
      | nil => exact absurd rfl filled
      | cons c rest =>
          have digit := figures c (List.mem_cons_self ..)
          have ne := fun d plain => @ne_of_digit c d digit plain
          refine ⟨Fence.opening?_eq_none (ne _ (by decide)) (ne _ (by decide)), ?_,
            Rule.marks?_eq_none (ne _ (by decide)) (ne _ (by decide)) (ne _ (by decide)), ?_,
            Described.ofLine?_eq_none (ne _ (by decide)), Directive.ofLine?_eq_none (ne _ (by decide))⟩
          · simpa [text] using ne '>' (by decide)
          · simp [Underline.mark?, text, ne '=' (by decide), ne '-' (by decide)]

/-- Whether a list that begins with a mark interrupts a paragraph. -/
def interruptsParagraph (mark : ListMark) : Bool := mark.digits.isNone || mark.number == 1

section

variable {options : Options} {frame : Frame} {n stop : Nat} {line : Text}

theorem starts?_of_solid (written : mark.Written)
    (solid : frame.Solid n (mark.text ++ ' ' :: line)) : starts? false frame n = some mark := by
  have itself : isContinuation frame n = false := by simp [isContinuation, solid.isOutdented]
  rw [starts?, if_neg (by simp [solid.isCode, itself]), solid.body, (written.read?_eq line).2]
  rfl

/-- A list that may interrupt a paragraph does so. -/
theorem interrupts_of_solid (written : mark.Written) (prose : IsProse line)
    (interrupting : mark.interruptsParagraph = true)
    (solid : frame.Solid n (mark.text ++ ' ' :: line)) : interrupts options true frame n = true := by
  have itself : isContinuation frame n = false := by simp [isContinuation, solid.isOutdented]
  have content : (mark.text ++ ' ' :: line).drop mark.length = ' ' :: line := by
    rw [← length_text, List.drop_left]
  have filled : (' ' :: line).all isIndent = false := by
    obtain ⟨c, rest, rfl, indents⟩ := prose.solid.eq_cons
    simp [indents]
  have starts : starts? true frame n = some mark := by
    rw [starts?, if_neg (by simp [solid.isCode, itself]), solid.body, (written.read?_eq line).2]
    simp only [Option.filter, content, filled]
    rw [interruptsParagraph] at interrupting
    simp [interrupting]
  simp [interrupts, starts]

theorem IsMarked.endsList_eq {row : Text} (isMarked : IsMarked row) (body : frame.body n = row)
    (options : Options) : endsList options frame n = false := by
  simp [endsList, Fence.starts, Quote.starts, Rule.starts, Command.starts, Command.startsDescription,
    Command.startsDirective, body, isMarked.fence, isMarked.quote, isMarked.rule, isMarked.described,
    isMarked.directive]

/-- The list goes on with an item under the next mark. -/
theorem nextMark?_of_solid {other : ListMark} (written : other.Written) (prose : IsProse line)
    (kind : other.digits.isSome = mark.digits.isSome) (sign : other.sign = mark.sign)
    (solid : frame.Solid n (other.text ++ ' ' :: line)) (inside : n < stop) :
    Items.nextMark? options frame mark n stop = some other := by
  have ends := (written.isMarked prose).endsList_eq solid.body options
  have here : ¬ (stop ≤ n) := by omega
  rw [Items.nextMark?, if_neg (by simp [here, solid.isOutdented, solid.isCode, ends]), solid.body,
    written.next?_eq kind sign]

/-- The block that begins with a mark is a list. -/
theorem read_items (inner : Reader) (written : mark.Written) (prose : IsProse line)
    (solid : frame.Solid n (mark.text ++ ' ' :: line)) :
    Block.read inner options frame [] n stop =
      (let items := Items.readItems inner options frame (stop - n) [] n stop mark false
      { elements := [
          { kind := if mark.digits.isSome then .orderedList else .bulletList
            tag := if mark.digits.isSome then "ol".toList else "ul".toList
            attrs := if mark.digits.isSome && mark.number != 1 then
                [("start".toList, .int mark.number)]
              else []
            markup := [mark.sign]
            children := if items.tight then items.elements.map Items.hideParagraphs else items.elements
            span := some (n, items.stop) }]
        stop := items.stop
        definitions := items.definitions }) := by
  have isMarked := written.isMarked prose
  have unquoted : Quote.starts frame n = false := by
    have other := beq_eq_false_iff_ne.2 isMarked.quote
    rw [Quote.starts, solid.body, other, Bool.and_false]
  simp only [Block.read, CodeBlock.read?, Fence.read?, Quote.read?, Rule.read?, Items.read?, unquoted,
    solid.isCode, solid.body, isMarked.fence, isMarked.rule, starts?_of_solid written solid]
  rfl

end

end ListMark

end DocComment.Markdown
