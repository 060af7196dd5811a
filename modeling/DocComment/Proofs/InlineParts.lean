/- The parts that inlines are read from, each where it stands at a place of a text: runs of characters, escapes
and references, code between backticks, the target of a link. What may follow a part in the text is left open;
the end of what can be read, and of what follows beyond it, are told apart (`Holds`). -/
import DocComment.Markdown.Inline
import DocComment.Proofs.Nesting
import Mathlib.Tactic.MkIffOfInductiveProp

namespace DocComment.Markdown.Inline

set_option autoImplicit false

/-! ## Places -/

/-- A place from which a text is left to read. More may follow that is out of reach. -/
structure Holds (s : Spot) (t beyond : Text) : Prop where
  tail : s.tail = t ++ beyond
  room : s.room = t.length

section Spots

variable {s : Spot} {t beyond : Text}

theorem holds_ofText (t : Text) : Holds (.ofText t) t [] := ⟨(List.append_nil t).symm, rfl⟩

theorem Holds.advance (front : Text) (holds : Holds s (front ++ t) beyond) :
    Holds (s.advance front.length) t beyond := by
  cases front with
  | nil => exact holds
  | cons c front => exact ⟨by simp [Spot.advance, holds.tail], by simp [Spot.advance, holds.room]⟩

theorem Spot.pos_advance (s : Spot) (count : Nat) : (s.advance count).pos = s.pos + count := by
  cases count with
  | zero => rfl
  | succ count => rfl

/-- After some characters the last of them is the character before. -/
theorem Holds.before_advance (front : Text) (holds : Holds s (front ++ t) beyond) :
    (s.advance front.length).before = front.getLast?.getD s.before := by
  cases front with
  | nil => rfl
  | cons c front =>
      have inside : front.length < (c :: front).length := Nat.lt_succ_self _
      rw [List.length_cons, Spot.advance]
      dsimp only
      rw [holds.tail, List.append_assoc, List.getD_eq_getElem?_getD, List.getElem?_append_left inside,
        List.getLast?_eq_getElem?]
      rfl

theorem Holds.run (holds : Holds s t beyond) (p : Char → Bool) : s.run p = t.takeWhile p := by
  rw [Spot.run, holds.tail, holds.room, List.takeWhile_append]
  split
  · rename_i all
    have whole : t.takeWhile p = t := (List.takeWhile_prefix p).eq_of_length all
    rw [List.take_left, whole]
  · exact List.take_of_length_le (List.takeWhile_prefix p).length_le

theorem Holds.visible (holds : Holds s t beyond) : s.visible = t := by
  rw [Spot.visible, holds.tail, holds.room, List.take_left]

theorem Holds.head (holds : Holds s t beyond) : s.head? = t.head? := by
  rw [Spot.head?, holds.tail, holds.room]
  cases t <;> simp

end Spots

/-! ## Escapes, references and line breaks -/

section Atoms

variable {s : Spot} {t beyond : Text}

theorem atom?_escape {c : Char} (holds : Holds s ('\\' :: c :: t) beyond) (inside : c ≠ '\n') :
    ∃ atom, atom? s = some atom ∧ atom.length = 2 ∧ atom.element.text = ['\\', c] := by
  rw [atom?, holds.tail]
  simp only [List.cons_append, holds.visible, escape?]
  refine ⟨_, rfl, rfl, ?_⟩
  rfl

/-- A reference is written as it stands, whatever it stands for. -/
theorem atom?_reference {name content : Text} (holds : Holds s ('&' :: (name ++ t)) beyond)
    (named : name ≠ []) (read : Entity.read? ('&' :: (name ++ (t ++ beyond))) = some (content, t ++ beyond)) :
    ∃ atom, atom? s = some atom ∧ atom.length = name.length + 1 ∧ atom.element.text = '&' :: name := by
  have tail : s.tail = '&' :: (name ++ (t ++ beyond)) := by rw [holds.tail]; simp
  have room : ¬ s.room < 2 := by
    have := List.length_pos_iff.mpr named
    rw [holds.room, List.length_cons, List.length_append]
    omega
  have length : s.tail.length - (t ++ beyond).length = name.length + 1 := by
    rw [tail]
    simp only [List.length_cons, List.length_append]
    omega
  rw [atom?, tail]
  simp only [entity?, if_neg room, tail, read, Option.map_some]
  rw [← tail, length, tail]
  refine ⟨_, rfl, rfl, ?_⟩
  simp [Element.text, Element.toInline, Node.render, Render.assemble, Kind.isList]

theorem atom?_ampersand (holds : Holds s ('&' :: t) beyond)
    (read : Entity.read? ('&' :: (t ++ beyond)) = none) : atom? s = none := by
  rw [atom?, holds.tail]
  simp [entity?, holds.tail, read]

theorem breakLength_eq (holds : Holds s ('\n' :: t) beyond)
    (unindented : t.head?.any isIndent = false) : breakLength s = 1 := by
  have after : Holds (s.advance 1) t beyond := holds.advance ['\n']
  rw [breakLength, after.run]
  cases t with
  | nil => rfl
  | cons c t =>
      have here : isIndent c = false := unindented
      simp [here]

theorem text_breakAfter (pending : Text) : (breakAfter pending).2.text = ['\n'] := by
  simp only [breakAfter]
  split
  · rfl
  · rfl

end Atoms

/-! ## Code -/

/-- Code that may stand between runs of backticks of a length: none of the runs in it has this length, and it
does not end with one. -/
inductive Encloses (length : Nat) : Text → Prop
  | single {c : Char} (other : c ≠ '`') : Encloses length [c]
  | cons {c : Char} {code : Text} (other : c ≠ '`') (rest : Encloses length code) : Encloses length (c :: code)
  | ticks {count : Nat} {code : Text} (differs : count + 1 ≠ length) (stops : code.head? ≠ some '`')
      (rest : Encloses length code) : Encloses length (List.replicate (count + 1) '`' ++ code)

theorem Encloses.ne_nil {length : Nat} {code : Text} (encloses : Encloses length code) : code ≠ [] := by
  cases encloses <;> simp

/-- Code between runs of backticks. -/
def codeText (length : Nat) (code : Text) : Text := List.replicate length '`' ++ (code ++ List.replicate length '`')

theorem length_codeText (length : Nat) (code : Text) : (codeText length code).length = 2 * length + code.length := by
  simp only [codeText, List.length_append, List.length_replicate]
  omega

theorem text_code (length : Nat) (code : Text) :
    Element.text { kind := .code, tag := "code".toList, content := code
                   markup := List.replicate (length + 1) '`' } = codeText (length + 1) code := by
  simp [Element.text, Element.toInline, Node.render, Kind.isList, Render.assemble, codeText]

theorem takeWhile_replicate_append {c : Char} (count : Nat) {t : Text} (stops : t.head? ≠ some c) :
    (List.replicate count c ++ t).takeWhile (· == c) = List.replicate count c := by
  have none : t.takeWhile (· == c) = [] := by
    cases t with
    | nil => rfl
    | cons d t =>
        have other : d ≠ c := by simpa using stops
        simp [other]
  rw [List.takeWhile_append_of_pos, none, List.append_nil]
  intro d member
  rw [List.eq_of_mem_replicate member, beq_self_eq_true]

section Ticks

variable {length limit fuel pos : Nat} {code t : Text} {memo : Memo}

/-- Characters before the next backtick are passed. -/
theorem closingTicks_cons {c : Char} (other : c ≠ '`') :
    closingTicks length limit (fuel + 1) pos (c :: t) memo =
      ((closingTicks length limit (fuel + 1) (pos + 1) t memo).1.map (c :: ·),
        (closingTicks length limit (fuel + 1) (pos + 1) t memo).2) := by
  have taken : (c :: t).takeWhile (· != '`') = c :: t.takeWhile (· != '`') := by simp [other]
  have start : pos + ((t.takeWhile (· != '`')).length + 1) = pos + 1 + (t.takeWhile (· != '`')).length := by
    omega
  rw [closingTicks, closingTicks, taken]
  simp only [List.length_cons, List.drop_succ_cons, start]
  cases t.drop (t.takeWhile (· != '`')).length with
  | nil => rfl
  | cons _ rest =>
      dsimp only
      split
      · rfl
      · simp only [Option.map_map, List.cons_append, Function.comp_def]

/-- A run of backticks closes the code if it has the right length, and else is passed and remembered. -/
theorem closingTicks_run {count : Nat} (inside : pos + (count + 1) ≤ limit)
    (stops : (t.take (limit - (pos + (count + 1)))).head? ≠ some '`') :
    closingTicks length limit (fuel + 1) pos (List.replicate (count + 1) '`' ++ t) memo =
      if count + 1 = length then (some [], memo)
      else
        let next := closingTicks length limit fuel (pos + (count + 1)) t
          { memo with ticks := (count + 1, pos) :: memo.ticks }
        (next.1.map (List.replicate (count + 1) '`' ++ ·), next.2) := by
  have run : ((List.replicate count '`' ++ t).take (limit - (pos + 1))).takeWhile (· == '`') =
      List.replicate count '`' := by
    rw [List.take_append, List.take_replicate, List.length_replicate,
      Nat.min_eq_right (by omega : count ≤ limit - (pos + 1)),
      show limit - (pos + 1) - count = limit - (pos + (count + 1)) by omega]
    exact takeWhile_replicate_append count stops
  have place : pos + 1 + count = pos + (count + 1) := by omega
  have rest : (List.replicate count '`' ++ t).drop count = t := by
    conv => lhs; arg 1; rw [← @List.length_replicate _ count '`']
    exact List.drop_left
  rw [closingTicks, List.replicate_succ, List.cons_append]
  simp only [List.takeWhile_cons, bne_self_eq_false, Bool.false_eq_true, if_false, List.length_nil,
    List.drop_zero, Nat.add_zero, run, List.length_replicate, place, rest, List.nil_append]
  rfl

/-- **The end of code**: the first run of the right length. -/
theorem closingTicks_code (encloses : Encloses (length + 1) code)
    (enough : code.length < fuel) (inside : pos + code.length + (length + 1) ≤ limit)
    (stops : (t.take (limit - (pos + code.length + (length + 1)))).head? ≠ some '`') :
    ∃ memo', closingTicks (length + 1) limit fuel pos
        (code ++ (List.replicate (length + 1) '`' ++ t)) memo = (some code, memo') ∧
      memo'.ends = memo.ends ∧ memo'.ticksKnown = memo.ticksKnown := by
  obtain ⟨fuel, rfl⟩ : ∃ n, fuel = n + 1 := ⟨fuel - 1, by omega⟩
  -- Only runs take fuel, and each of them has at least one character.
  induction encloses generalizing fuel pos memo with
  | single other =>
      have run := @closingTicks_run (length + 1) limit fuel (pos + 1) t memo length
        (by simpa using inside) (by simpa using stops)
      rw [if_pos rfl] at run
      refine ⟨memo, ?_, rfl, rfl⟩
      rw [List.singleton_append, closingTicks_cons other, run]
      rfl
  | @cons c code other rest ih =>
      rw [List.length_cons] at enough
      rw [List.length_cons, show pos + (code.length + 1) = pos + 1 + code.length by omega] at inside stops
      obtain ⟨memo', found, kept⟩ := ih inside stops fuel (by omega)
      exact ⟨memo', by rw [List.cons_append, closingTicks_cons other, found]; rfl, kept⟩
  | @ticks count code differs other rest ih =>
      rw [List.length_append, List.length_replicate] at enough
      rw [List.length_append, List.length_replicate,
        show pos + (count + 1 + code.length) = pos + (count + 1) + code.length by omega] at inside stops
      obtain ⟨fuel, rfl⟩ : ∃ n, fuel = n + 1 := ⟨fuel - 1, by omega⟩
      obtain ⟨memo', found, ends, known⟩ := @ih (pos + (count + 1))
        { memo with ticks := (count + 1, pos) :: memo.ticks } inside stops fuel (by omega)
      refine ⟨memo', ?_, ends, known⟩
      rw [List.append_assoc, closingTicks_run (by omega), if_neg differs, found]
      · rfl
      · obtain ⟨c, more, rfl⟩ := List.exists_cons_of_ne_nil rest.ne_nil
        cases limit - (pos + (count + 1)) with
        | zero => simp
        | succ _ => simpa using other

/-- The search begins behind the opening run. As long as the text was not searched to its end, nothing keeps
it from being made. -/
theorem ticks_code {s : Spot} {beyond : Text} (encloses : Encloses (length + 1) code)
    (first : code.head? ≠ some '`') (stops : t.head? ≠ some '`') (unknown : memo.ticksKnown = false)
    (holds : Holds s (codeText (length + 1) code ++ t) beyond) :
    ∃ memo', ticks s memo = (length + 1, some code, memo') ∧ memo'.ends = memo.ends ∧
      memo'.ticksKnown = false := by
  rw [codeText, List.append_assoc, List.append_assoc] at holds
  have opening : s.run (· == '`') = List.replicate (length + 1) '`' := by
    rw [holds.run]
    apply takeWhile_replicate_append
    obtain ⟨c, more, rfl⟩ := List.exists_cons_of_ne_nil encloses.ne_nil
    exact first
  have after : s.tail.drop (length + 1) = code ++ (List.replicate (length + 1) '`' ++ (t ++ beyond)) := by
    rw [holds.tail, List.append_assoc, List.drop_left' List.length_replicate]
    simp
  have room : s.room = length + 1 + (code.length + (length + 1 + t.length)) := by
    rw [holds.room]
    simp
  have long : code.length < s.tail.length + 1 := by
    rw [holds.tail]
    simp only [List.length_append]
    omega
  have last : ((t ++ beyond).take (s.pos + s.room - (s.pos + (length + 1) + code.length + (length + 1)))).head? ≠
      some '`' := by
    rw [room, show s.pos + (length + 1 + (code.length + (length + 1 + t.length))) -
      (s.pos + (length + 1) + code.length + (length + 1)) = t.length by omega, List.take_left]
    exact stops
  obtain ⟨memo', found, ends, known⟩ := @closingTicks_code length (s.pos + s.room) (s.tail.length + 1)
    (s.pos + (length + 1)) code (t ++ beyond) memo encloses long (by omega) last
  refine ⟨memo', ?_, ends, known.trans unknown⟩
  simp only [ticks, opening, List.length_replicate, unknown, Bool.false_and, Bool.false_eq_true, if_false,
    after, found]

end Ticks

/-! ## Targets -/

/-- Whether a character may end a bare destination, or change how it is read. -/
def endsTarget (c : Char) : Bool := c.toNat ≤ 0x20 || c.toNat == 0x7F || "()<\\".toList.contains c

/-- A destination and a title that are stored as they are written. -/
@[mk_iff]
structure IsTarget (href title : Text) : Prop where
  filled : href ≠ []
  bare : href.any endsTarget = false
  unescaped : Entity.unescape href = href
  normal : Url.normalize href = href
  allowed : Url.isAllowed href = true
  quoted : title.any (fun c => c == '"' || c == '\\') = false
  titleUnescaped : Entity.unescape title = title

instance (href title : Text) : Decidable (IsTarget href title) := decidable_of_iff' _ (isTarget_iff href title)

/-- What is written between the parentheses of a link. -/
def targetText (href title : Text) : Text :=
  href ++ if title.isEmpty then [] else [' ', '"'] ++ title ++ ['"']

/-- A link with its text and its target. -/
def linkText (label href title : Text) : Text :=
  '[' :: (label ++ ']' :: '(' :: (targetText href title ++ [')']))

theorem length_linkText (label href title : Text) :
    (linkText label href title).length = label.length + (targetText href title).length + 4 := by
  simp only [linkText, List.length_cons, List.length_append, List.length_nil]
  omega

theorem linkText_append (label href title rest : Text) :
    linkText label href title ++ rest = '[' :: (label ++ ']' :: '(' :: (targetText href title ++ ')' :: rest)) := by
  simp [linkText]

section Target

variable {href title t : Text}

/-- Characters that end nothing are passed one by one. -/
theorem bare?_append (plain : href.any endsTarget = false) (depth : Nat) (rest : Text) :
    Target.bare? depth (href ++ rest) =
      (Target.bare? depth rest).map fun read => (href ++ read.1, read.2) := by
  induction href with
  | nil => simp
  | cons c href ih =>
      simp only [List.any_cons, Bool.or_eq_false_iff] at plain
      obtain ⟨here, later⟩ := plain
      have other : c ≠ '\\' ∧ c ≠ '(' ∧ c ≠ ')' ∧ ¬ (c.toNat ≤ 0x20 ∨ c.toNat = 0x7F) := by
        simp [endsTarget] at here
        simp [here]
      rw [List.cons_append, Target.bare?.eq_def]
      split
      · contradiction
      · next escape =>
          injection escape with same
          exact absurd same other.1
      · next same =>
          cases same
          rw [if_neg other.2.2.2, if_neg other.2.1, if_neg other.2.2.1, ih later, Option.map_map]
          rfl

theorem quoted?_append (plain : title.any (fun c => c == '"' || c == '\\') = false) (rest : Text) :
    Target.quoted? '"' (title ++ '"' :: rest) = some (title, rest) := by
  induction title with
  | nil => simp [Target.quoted?]
  | cons c title ih =>
      simp only [List.any_cons, Bool.or_eq_false_iff, beq_eq_false_iff_ne] at plain
      obtain ⟨⟨mark, escape⟩, later⟩ := plain
      rw [List.cons_append, Target.quoted?, if_neg mark, if_neg (by simp), ih later]
      · rfl
      · exact fun d more same => absurd same escape

/-- A destination ends before the blank in front of a title or before the closing parenthesis. -/
theorem destination?_append (target : IsTarget href title) {c : Char} (stops : c = ' ' ∨ c = ')') (rest : Text) :
    Target.destination? (href ++ c :: rest) = some (href, c :: rest) := by
  have read : Target.bare? 0 (href ++ c :: rest) = some (href, c :: rest) := by
    rw [bare?_append target.bare]
    rcases stops with rfl | rfl
    · simp [Target.bare?]
    · simp [Target.bare?]
  obtain ⟨d, more, rfl⟩ := List.exists_cons_of_ne_nil target.filled
  have angle : d ≠ '<' := by
    rintro rfl
    exact absurd target.bare (by simp [endsTarget])
  rw [List.cons_append] at read ⊢
  unfold Target.destination?
  split
  · next same =>
      cases same
      exact absurd rfl angle
  · simp only [read, target.unescaped]

/-- **A target is read as it is written.** -/
theorem target_append (target : IsTarget href title) (rest : Text) :
    Inline.target (targetText href title ++ ')' :: rest) = (href, title, ')' :: rest) := by
  by_cases untitled : title = []
  · subst untitled
    have read := destination?_append target (.inr rfl) rest
    simp [Inline.target, targetText, read, target.normal, target.allowed, skipSpace, isIndent]
  · have spelled : targetText href title ++ ')' :: rest = href ++ ' ' :: '"' :: (title ++ '"' :: ')' :: rest) := by
      simp [targetText, untitled]
    have read := destination?_append target (.inl rfl) ('"' :: (title ++ '"' :: ')' :: rest))
    rw [spelled, Inline.target, read]
    simp [target.normal, target.allowed, skipSpace, isIndent, Target.title?, quoted?_append target.quoted,
      target.titleUnescaped]

/-- A destination does not begin with a blank, so nothing is skipped in front of it. -/
theorem skipSpace_target (target : IsTarget href title) (rest : Text) :
    skipSpace (targetText href title ++ rest) = targetText href title ++ rest := by
  obtain ⟨c, more, rfl⟩ := List.exists_cons_of_ne_nil target.filled
  have solid : endsTarget c = false := by
    simpa using List.any_eq_false.1 target.bare c List.mem_cons_self
  have other : (isIndent c || c == '\n') = false := by
    rw [Bool.eq_false_iff]
    intro blank
    have same : c = ' ' ∨ c = '\t' ∨ c = '\n' := by simpa [isIndent, or_assoc] using blank
    rcases same with rfl | rfl | rfl
    · exact absurd solid (by decide)
    · exact absurd solid (by decide)
    · exact absurd solid (by decide)
  simp [targetText, skipSpace, other]

theorem target_link (site : Site) (children : List Element) :
    Render.target (Element.toInline
        { kind := .link, tag := ['a'], attrs := siteAttrs "href".toList site, children }) "href".toList =
      targetText site.href site.title := by
  obtain ⟨label, href, title, length⟩ := site
  cases title with
  | nil => rfl
  | cons c title => rfl

theorem text_link (site : Site) (children : List Element) :
    Element.text { kind := .link, tag := ['a'], attrs := siteAttrs "href".toList site, children } =
      linkText (children.flatMap Element.text) site.href site.title := by
  have target := target_link site children
  rw [← renderInlines_toInlines]
  simp only [Element.toInline] at target
  simpa [Element.text, Element.toInline, Node.render, Kind.isList, Render.assemble, renderInlines, linkText]
    using target

end Target

end DocComment.Markdown.Inline
