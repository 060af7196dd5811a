/- Commands as they are written and as they are read. The first line of a directive is accepted exactly if
it is an at sign, a name, arguments in parentheses or none, and at most one brace among blanks
(`Directive.ofLine?_eq_some_iff`). A description is written in lines, of which the first begins with a word
and the others continue it; reading ends behind the last of them (`Command.continuation_eq`). So both kinds
of commands are read back as they were (`Command.commands_reread`). -/
import DocComment.Proofs.Comments
import DocComment.Proofs.DirectiveReading

namespace DocComment

set_option autoImplicit false

/-! ## The last occurrence of a character -/

namespace Text

variable {sep : Char}

theorem cutAtLast?_eq_none {t : Text} (free : sep ∉ t) : cutAtLast? sep t = none := by
  induction t with
  | nil => rfl
  | cons c rest ih =>
      simp only [List.mem_cons, not_or] at free
      rw [cutAtLast?, ih free.2]
      exact if_neg (Ne.symm free.1)

theorem cutAtLast?_append {back : Text} (free : sep ∉ back) (front : Text) :
    cutAtLast? sep (front ++ sep :: back) = some (front, back) := by
  induction front with
  | nil =>
      rw [List.nil_append, cutAtLast?, cutAtLast?_eq_none free]
      exact if_pos rfl
  | cons c front ih => rw [List.cons_append, cutAtLast?, ih]

/-- Both parts and the separator make up the text again. -/
theorem eq_append_of_cutAtLast? {t front back : Text} (cut : cutAtLast? sep t = some (front, back)) :
    t = front ++ sep :: back := by
  induction t generalizing front with
  | nil => cases cut
  | cons c rest ih =>
      rw [cutAtLast?] at cut
      cases later : cutAtLast? sep rest with
      | some found =>
          rw [later] at cut
          cases cut
          rw [ih later, List.cons_append]
      | none =>
          rw [later] at cut
          by_cases same : c = sep
          · rw [if_pos same] at cut
            cases cut
            rw [same, List.nil_append]
          · rw [if_neg same] at cut
            cases cut

end Text

namespace Markdown

/-! ## The first line of a directive -/

namespace Directive

def isName : Text → Bool
  | [] => false
  | c :: rest => isAsciiLetter c && rest.all isNameChar

/-- A character that may stand neither first nor later in a name is not in it. -/
theorem not_mem_name {name : Text} (named : isName name = true) {c : Char} (first : isAsciiLetter c = false)
    (later : isNameChar c = false) : c ∉ name := by
  intro member
  cases name with
  | nil => cases member
  | cons d rest =>
      simp only [isName, Bool.and_eq_true, List.all_eq_true] at named
      rcases List.mem_cons.1 member with rfl | inside
      · rw [first] at named
        cases named.1
      · have allowed := named.2 c inside
        rw [later] at allowed
        cases allowed

/-- A directive as it is written, without its brace. -/
def spelled (d : Directive) : Text :=
  '@' :: (d.name ++
    match d.arguments with
    | none => []
    | some arguments => ['('] ++ arguments ++ [')'])

theorem isNameChar_of_blank {c : Char} (blank : isBlank c = true) : isNameChar c = false :=
  Text.forall_inRanges (P := fun c => isNameChar c = false) (by decide +kernel) blank

/-- A line goes on after its arguments with blanks and a brace or with blanks alone. -/
theorem brace?_eq_some_iff {t : Text} {opens : Bool} :
    brace? t = some opens ↔ ∃ gap rest : Text, gap.all isBlank = true ∧ rest.all isBlank = true ∧
      t = gap ++ if opens then '{' :: rest else [] := by
  have split : t = t.takeWhile isBlank ++ Text.trimLeft t := List.takeWhile_append_dropWhile.symm
  constructor
  · intro found
    refine ⟨t.takeWhile isBlank, (Text.trimLeft t).drop 1, List.all_takeWhile, ?_⟩
    rw [brace?] at found
    split at found
    · rename_i nothing
      cases found
      rw [nothing] at split ⊢
      exact ⟨rfl, split⟩
    · rename_i rest braced
      rw [braced] at split ⊢
      by_cases blank : rest.all isBlank = true
      · rw [if_pos blank] at found
        cases found
        exact ⟨blank, split⟩
      · rw [if_neg blank] at found
        cases found
    · cases found
  · rintro ⟨gap, rest, blankGap, blankRest, rfl⟩
    rw [brace?, Text.trimLeft_append_left blankGap]
    cases opens with
    | false => rfl
    | true => exact if_pos blankRest

/-- Nothing but blanks and a brace is left of the first line of a directive. -/
theorem mem_of_brace? {t : Text} {opens : Bool} (found : brace? t = some opens) {c : Char}
    (member : c ∈ t) : isBlank c = true ∨ c = '{' := by
  obtain ⟨gap, rest, blankGap, blankRest, rfl⟩ := brace?_eq_some_iff.1 found
  rcases List.mem_append.1 member with before | after
  · exact .inl (List.all_eq_true.1 blankGap c before)
  · cases opens with
    | false => cases after
    | true =>
        rcases List.mem_cons.1 after with rfl | later
        · exact .inr rfl
        · exact .inl (List.all_eq_true.1 blankRest c later)

/-- A line that is read as a directive consists of its spelling and a tail in which only a brace may stand.
-/
theorem spelled_of_ofLine? {line : Text} {d : Directive} (found : ofLine? line = some d) :
    isName d.name = true ∧ ∃ tail, line = d.spelled ++ tail ∧ brace? tail = some d.opens := by
  unfold ofLine? at found
  split at found
  · rename_i c rest
    by_cases letter : isAsciiLetter c = true
    · rw [if_pos letter] at found
      have named : isName (c :: rest.takeWhile isNameChar) = true := by
        rw [isName, letter, List.all_takeWhile]
        rfl
      have whole : rest = rest.takeWhile isNameChar ++ rest.dropWhile isNameChar :=
        List.takeWhile_append_dropWhile.symm
      dsimp only at found
      split at found
      · rename_i inner follows
        obtain ⟨⟨arguments, tail⟩, cut, read⟩ := Option.bind_eq_some_iff.1 found
        obtain ⟨opens, braced, rfl⟩ := Option.map_eq_some_iff.1 read
        refine ⟨named, tail, ?_, braced⟩
        rw [follows, Text.eq_append_of_cutAtLast? cut] at whole
        rw [spelled]
        nth_rewrite 1 [whole]
        simp
      · obtain ⟨opens, braced, rfl⟩ := Option.map_eq_some_iff.1 found
        refine ⟨named, _, ?_, braced⟩
        rw [spelled]
        nth_rewrite 1 [whole]
        simp
    · rw [if_neg letter] at found
      cases found
  · cases found

/-- A name is read up to what cannot go on with it. -/
theorem takeWhile_name {rest tail : Text} (each : ∀ c ∈ rest, isNameChar c = true)
    (ends : ∀ c ∈ tail.head?, isNameChar c = false) :
    (rest ++ tail).takeWhile isNameChar = rest ∧ (rest ++ tail).dropWhile isNameChar = tail := by
  rw [List.takeWhile_append_of_pos each, List.dropWhile_append_of_pos each]
  cases tail with
  | nil => exact ⟨List.append_nil _, rfl⟩
  | cons c tail => simp [ends c rfl]

/-- The spelling of a directive is read back. The arguments end at the last parenthesis, so parentheses and
braces inside them do no harm. -/
theorem ofLine?_spelled {d : Directive} {tail : Text} (named : isName d.name = true)
    (braced : brace? tail = some d.opens) : ofLine? (d.spelled ++ tail) = some d := by
  have among := @mem_of_brace? tail d.opens braced
  obtain ⟨name, arguments, opens⟩ := d
  cases name with
  | nil => cases named
  | cons c rest =>
      simp only [isName, Bool.and_eq_true, List.all_eq_true] at named
      obtain ⟨letter, each⟩ := named
      cases arguments with
      | none =>
          -- What follows the name neither goes on with it nor opens parentheses.
          have ends : ∀ x ∈ tail.head?, isNameChar x = false ∧ x ≠ '(' := by
            intro x first
            rcases among (List.mem_of_mem_head? first) with blank | rfl
            · refine ⟨isNameChar_of_blank blank, ?_⟩
              rintro rfl
              exact absurd blank (by decide)
            · decide
          have run := takeWhile_name each fun x first => (ends x first).1
          have text : spelled ⟨c :: rest, none, opens⟩ ++ tail = '@' :: c :: (rest ++ tail) := by
            simp [spelled]
          rw [text, ofLine?]
          simp only [letter, if_true, run]
          split
          · exact absurd rfl (ends '(' rfl).2
          · rw [braced, Option.map_some]
      | some arguments =>
          have free : ')' ∉ tail := by
            intro member
            rcases among member with blank | brace
            · exact absurd blank (by decide)
            · exact absurd brace (by decide)
          have run := @takeWhile_name rest ('(' :: (arguments ++ ')' :: tail)) each
            (by rintro _ ⟨⟩; decide)
          have text : spelled ⟨c :: rest, some arguments, opens⟩ ++ tail =
              '@' :: c :: (rest ++ '(' :: (arguments ++ ')' :: tail)) := by simp [spelled]
          rw [text, ofLine?]
          simp only [letter, if_true, run, Text.cutAtLast?_append free, Option.bind_some, braced,
            Option.map_some]

/-- **Which lines begin a directive.** -/
theorem ofLine?_eq_some_iff {line : Text} {d : Directive} :
    ofLine? line = some d ↔
      isName d.name = true ∧ ∃ tail, line = d.spelled ++ tail ∧ brace? tail = some d.opens := by
  constructor
  · exact spelled_of_ofLine?
  · rintro ⟨named, tail, rfl, braced⟩
    exact ofLine?_spelled named braced

end Directive

theorem directiveHead_eq (node : Node) (opens : Bool) :
    Render.directiveHead node = Directive.spelled ⟨node.name, node.arguments, opens⟩ := rfl

theorem Directive.newline_not_mem_spelled {d : Directive} (named : isName d.name = true)
    (free : ∀ arguments ∈ d.arguments, '\n' ∉ arguments) : '\n' ∉ d.spelled := by
  have plain : '\n' ∉ d.name := not_mem_name named (by decide) (by decide)
  rw [spelled]
  cases inside : d.arguments with
  | none => simp [plain]
  | some arguments => simp [plain, free arguments inside]

/-- The first line that is written for a directive is read as what it is. -/
theorem Directive.ofLine?_directiveLine {node : Node} (named : isName node.name = true) :
    ofLine? node.directiveLine =
      some { name := node.name, arguments := node.arguments, opens := !node.children.isEmpty } := by
  rw [Node.directiveLine, directiveHead_eq node (!node.children.isEmpty)]
  refine ofLine?_spelled named ?_
  cases node.children.isEmpty with
  | true => rfl
  | false => exact show brace? [' ', '{'] = some true by decide

/-! ## Descriptions -/

namespace Described

/-- The word of a command with the name of the parameter that it describes. -/
def word : Described → Text
  | parameter name => "\\param".toList ++ ' ' :: name
  | result => "\\returns".toList

theorem word_parameter (name : Text) : word (.parameter name) = "\\param".toList ++ ' ' :: name := rfl

theorem word_result : word .result = "\\returns".toList := rfl

/-- Whether there is a name that can be told from what follows it. -/
def IsNamed : Described → Prop
  | parameter name => name ≠ [] ∧ name.any isBlank = false
  | result => True

instance : DecidablePred IsNamed := fun described =>
  match described with
  | parameter _ => inferInstanceAs (Decidable (_ ∧ _))
  | result => inferInstanceAs (Decidable True)

/-- The word of a description is read back if what follows it cannot be taken for a part of the name. -/
theorem ofLine?_word {described : Described} (named : described.IsNamed) {tail : Text}
    (ends : tail.head?.all isBlank = true) :
    ofLine? (described.word ++ tail) = some (described, tail) := by
  have stops : tail.takeWhile (!isBlank ·) = [] := by
    cases tail with
    | nil => rfl
    | cons c tail => simpa using ends
  cases described with
  | parameter name =>
      obtain ⟨filled, solid⟩ := named
      have each : ∀ c ∈ name, (!isBlank c) = true := by simpa using solid
      have after : Text.after? "\\param".toList (word (.parameter name) ++ tail) =
          some (' ' :: (name ++ tail)) := Text.after?_eq_some_iff.2 (List.append_assoc _ _ _)
      have gap : (' ' :: (name ++ tail)).takeWhile isBlank = [' '] := by
        obtain ⟨c, rest, rfl⟩ := List.exists_cons_of_ne_nil filled
        have first : isBlank c = false := by simpa using each c List.mem_cons_self
        simp [first, show isBlank ' ' = true by decide]
      have read : (name ++ tail).takeWhile (!isBlank ·) = name := by
        rw [List.takeWhile_append_of_pos each, stops, List.append_nil]
      have parameter : parameterOf? (word (.parameter name) ++ tail) = some (.parameter name, tail) := by
        have beyond : (' ' :: (name ++ tail)).drop (1 + name.length) = tail := by
          rw [Nat.add_comm, List.drop_succ_cons, List.drop_left]
        rw [parameterOf?, after]
        simp only [Option.bind_eq_bind, Option.bind_some, gap, List.length_singleton, List.drop_one,
          List.tail_cons, read, beyond]
        simp [filled]
      rw [ofLine?, parameter]
      rfl
  | result =>
      have none : parameterOf? (word .result ++ tail) = none := rfl
      have after : Text.after? "\\returns".toList (word .result ++ tail) = some tail :=
        Text.after?_eq_some_iff.2 rfl
      have result : resultOf? (word .result ++ tail) = some (.result, tail) := by
        rw [resultOf?, List.findSome?_cons, after]
        cases tail with
        | nil => rfl
        | cons c tail =>
            have blank : isBlank c = true := by simpa using ends
            simp [blank]
      rw [ofLine?, none, result]
      rfl

theorem trimRight_word {described : Described} (named : described.IsNamed) :
    Text.trimRight described.word = described.word := by
  rw [Text.trimRight_eq_self_iff]
  cases described with
  | parameter name =>
      obtain ⟨filled, solid⟩ := named
      rw [word_parameter, List.getLast?_append_of_ne_nil _ (List.cons_ne_nil _ _), ← List.singleton_append,
        List.getLast?_append_of_ne_nil _ filled]
      cases last : name.getLast? with
      | none => rfl
      | some c => simpa using List.any_eq_false.1 solid c (List.mem_of_getLast? last)
  | result => decide

theorem newline_not_mem_word {described : Described} (named : described.IsNamed) :
    '\n' ∉ described.word := by
  cases described with
  | parameter name =>
      obtain ⟨-, solid⟩ := named
      have free : '\n' ∉ name := fun member =>
        List.any_eq_false.1 solid '\n' member (by decide)
      rw [word_parameter, List.mem_append, List.mem_cons, not_or, not_or]
      exact ⟨by decide, by decide, free⟩
  | result => decide

end Described

end Markdown

open Markdown

/-- A command and the lines of its description. None of them but the first begins a command. -/
structure Node.Describes (node : Node) (described : Described) (lines : List Text) : Prop where
  kind : node.kind = described.kind
  name : ∀ name, described = .parameter name → node.name = name
  named : described.IsNamed
  text : renderBlocks node.children = Text.unlines lines
  trimmed : ∀ line ∈ lines, Text.trim line = line
  filled : ∀ line ∈ lines, line.all isBlank = false
  free : ∀ line ∈ lines, '\n' ∉ line
  quiet : ∀ line ∈ lines.tail, Command.isStart line = false

namespace Node.Describes

variable {node : Node} {described : Described} {lines : List Text}

/-- The first line of a description follows its word, with blanks at the end of the whole taken away. -/
theorem render_eq (describes : node.Describes described lines) :
    node.render = Text.trimRight (described.word ++ ' ' :: Text.unlines lines) := by
  have text := describes.text
  rw [renderBlocks] at text
  have kind := describes.kind
  cases described with
  | parameter name =>
      rw [Node.render_other (by rw [kind]; rfl), Render.assemble, kind]
      have spaced : "\\param ".toList = "\\param".toList ++ [' '] := by decide
      simp only [Described.kind, text, describes.name name rfl, spaced, Described.word_parameter]
      simp
  | result =>
      rw [Node.render_other (by rw [kind]; rfl), Render.assemble, kind]
      have spaced : "\\returns ".toList = "\\returns".toList ++ [' '] := by decide
      simp only [Described.kind, text, spaced, Described.word_result]
      simp

theorem ne_nil_of_mem (describes : node.Describes described lines) {line : Text} (listed : line ∈ lines) :
    line ≠ [] := by
  rintro rfl
  cases describes.filled [] listed

theorem trim_text (describes : node.Describes described lines) :
    Text.trim (Text.unlines lines) = Text.unlines lines :=
  Comment.trim_unlines describes.trimmed fun _ => describes.ne_nil_of_mem

/-- The lines of a command: the first one holds its word and what the description begins with. -/
theorem rows_eq (describes : node.Describes described lines) :
    node.rows = (described.word ++ (lines.head?.map (' ' :: ·)).getD []) :: lines.tail := by
  have free := Described.newline_not_mem_word describes.named
  rw [Node.rows, describes.render_eq]
  cases lines with
  | nil =>
      rw [Text.trimRight_append_of_solid (Described.trimRight_word describes.named)]
      have nothing : Text.trimRight (' ' :: Text.unlines []) = [] := by decide
      rw [nothing, List.append_nil, Text.lines_eq_singleton free]
      exact congrArg (· :: []) (List.append_nil _).symm
  | cons line rest =>
      have filled : (Text.unlines (line :: rest)).all isBlank = false := by
        obtain ⟨more, split⟩ := Comment.prefix_unlines line rest
        rw [← split, List.all_append, describes.filled line List.mem_cons_self, Bool.false_and]
      have joined : described.word ++ ' ' :: Text.unlines (line :: rest) =
          Text.unlines ((described.word ++ ' ' :: line) :: rest) := by
        cases rest with
        | nil => rfl
        | cons next rest => simp [Text.unlines, Text.joinWith]
      have ended : Text.trimRight (described.word ++ ' ' :: Text.unlines (line :: rest)) =
          described.word ++ ' ' :: Text.unlines (line :: rest) := by
        rw [List.append_cons, Text.trimRight_append filled, (Text.ends_of_trim describes.trim_text).2]
      rw [ended, joined, Text.lines_unlines (List.cons_ne_nil _ _)]
      · rfl
      · intro row listed
        rcases List.mem_cons.1 listed with rfl | later
        · have inside := describes.free line List.mem_cons_self
          simp [free, inside]
        · exact describes.free row (List.mem_cons_of_mem _ later)

end Node.Describes

namespace Markdown

/-- From a line on, the lines of a frame hold texts, all at the indentation of the container. -/
def Frame.Holds (frame : Frame) (start : Nat) (rows : List Text) : Prop :=
  ∀ i row, rows[i]? = some row →
    frame.body (start + i) = row ∧ (frame.line (start + i)).indent = frame.indent

variable {frame : Frame} {start stop : Nat}

theorem Frame.Holds.head {row : Text} {rows : List Text} (holds : frame.Holds start (row :: rows)) :
    frame.body start = row ∧ (frame.line start).indent = frame.indent := holds 0 row rfl

theorem Frame.Holds.tail {row : Text} {rows : List Text} (holds : frame.Holds start (row :: rows)) :
    frame.Holds (start + 1) rows := by
  intro i next found
  rw [Nat.add_assoc, Nat.add_comm 1]
  exact holds (i + 1) next found

namespace Command

/-- Whether a description goes no further than to a line. -/
def endsDescription (frame : Frame) (n : Nat) : Bool :=
  frame.isEmpty n || frame.isOutdented n || isStart (frame.body n)

/-- A description is continued by the lines that begin no command, up to one that ends it. -/
theorem continuation_eq {rows : List Text} {count : Nat} (holds : frame.Holds start rows)
    (filled : ∀ row ∈ rows, row ≠ []) (quiet : ∀ row ∈ rows, isStart row = false)
    (enough : rows.length ≤ count)
    (ends : rows.length < count → endsDescription frame (start + rows.length) = true) :
    continuation frame count start = rows := by
  induction rows generalizing start count with
  | nil =>
      cases count with
      | zero => rfl
      | succ count => exact if_pos (ends (Nat.succ_pos count))
  | cons row rows ih =>
      obtain ⟨body, level⟩ := holds.head
      simp only [List.length_cons] at enough ends
      obtain ⟨left, rfl⟩ : ∃ left, count = left + 1 := ⟨count - 1, by omega⟩
      have goesOn : endsDescription frame start = false := by
        have shown : frame.isEmpty start = false := by
          show (frame.body start).isEmpty = false
          rw [body, List.isEmpty_eq_false_iff]
          exact filled row List.mem_cons_self
        simp [endsDescription, shown, body, Frame.isOutdented, level, quiet row List.mem_cons_self]
      rw [continuation, ← endsDescription, if_neg (by simp [goesOn]), body,
        ih holds.tail (fun r member => filled r (List.mem_cons_of_mem _ member))
          (fun r member => quiet r (List.mem_cons_of_mem _ member)) (by omega) fun more => ?_]
      rw [Nat.add_assoc, Nat.add_comm 1]
      exact ends (by omega)

/-- What follows the word of a command, with the lines below, is the text of the description. -/
theorem description_eq {node : Node} {described : Described} {lines : List Text}
    (describes : node.Describes described lines) :
    description ((lines.head?.map (' ' :: ·)).getD [] :: lines.tail) = Text.unlines lines := by
  cases lines with
  | nil => decide
  | cons line rest =>
      have first : Text.trim (' ' :: line) = line :=
        Text.trim_space (describes.trimmed line List.mem_cons_self)
      have others : rest.map Text.trim = rest :=
        List.map_congr_left (g := id) (fun row member =>
          describes.trimmed row (List.mem_cons_of_mem _ member)) |>.trans (List.map_id rest)
      show Text.trim (Text.unlines (Text.trim (' ' :: line) :: rest.map Text.trim)) = _
      rw [first, others, describes.trim_text]

/-- **A description is read back from its lines,** wherever they stand. -/
theorem readDescription?_rows {node : Node} {described : Described} {lines : List Text}
    (describes : node.Describes described lines) (holds : frame.Holds start node.rows)
    (inside : start + node.rows.length ≤ stop)
    (ends : start + node.rows.length < stop →
      endsDescription frame (start + node.rows.length) = true) (definitions : Definitions) :
    readDescription? frame definitions start stop = some
      { elements := [
          { kind := node.kind, markup := ['\\'], traits := described.traits
            children :=
              if lines.isEmpty then []
              else [paragraphElement (Text.unlines lines) start (start + node.rows.length)]
            span := some (start, start + node.rows.length) }]
        stop := start + node.rows.length
        definitions } := by
  rw [describes.rows_eq] at holds inside ends ⊢
  obtain ⟨body, level⟩ := holds.head
  simp only [List.length_cons] at inside ends ⊢
  have shallow : frame.isCode start = false := by simp [Frame.isCode, level]
  have read : Described.ofLine? (frame.body start) =
      some (described, (lines.head?.map (' ' :: ·)).getD []) := by
    rw [body]
    refine Described.ofLine?_word describes.named ?_
    cases lines with
    | nil => rfl
    | cons line rest => exact show isBlank ' ' = true by decide
  have more : continuation frame (stop - (start + 1)) (start + 1) = lines.tail :=
    continuation_eq holds.tail (fun row member => describes.ne_nil_of_mem (List.mem_of_mem_tail member))
      describes.quiet (by omega) fun less => by
        rw [Nat.add_assoc, Nat.add_comm 1]
        exact ends (by omega)
  have empty : (Text.unlines lines).isEmpty = lines.isEmpty := by
    cases lines with
    | nil => rfl
    | cons line rest =>
        obtain ⟨after, split⟩ := Comment.prefix_unlines line rest
        have some : line ≠ [] := describes.ne_nil_of_mem List.mem_cons_self
        rw [← split]
        simp [some]
  rw [readDescription?, shallow, read]
  simp only [Bool.false_eq_true, if_false, Option.map_some, more, description_eq describes, empty,
    describes.kind, Nat.add_assoc, Nat.add_comm 1]

/-- **Commands are read back as they are written.** The first line of a directive gives its name, its
arguments, whatever they contain, and whether there is a body. The lines of a description are read to their
end and no further, and give its kind, its name and its text. -/
theorem commands_reread :
    (∀ node : Node, node.kind = .directive → Directive.isName node.name = true →
      (∀ arguments ∈ node.arguments, '\n' ∉ arguments) →
      ∃ header below, node.rows = header :: below ∧
        Directive.ofLine? header = some
          { name := node.name, arguments := node.arguments, opens := !node.children.isEmpty }) ∧
    ∀ (node : Node) (described : Described) (lines : List Text), node.Describes described lines →
      ∀ (frame : Frame) (start stop : Nat) (definitions : Definitions),
        frame.Holds start node.rows → start + node.rows.length ≤ stop →
        (start + node.rows.length < stop →
          endsDescription frame (start + node.rows.length) = true) →
        readDescription? frame definitions start stop = some
          { elements := [
              { kind := node.kind, markup := ['\\'], traits := described.traits
                children :=
                  if lines.isEmpty then []
                  else [paragraphElement (Text.unlines lines) start (start + node.rows.length)]
                span := some (start, start + node.rows.length) }]
            stop := start + node.rows.length
            definitions } := by
  constructor
  · intro node directive named free
    have line := @Directive.newline_not_mem_spelled ⟨node.name, node.arguments, true⟩ named free
    exact ⟨_, _, rows_directive directive line, Directive.ofLine?_directiveLine named⟩
  · intro node described lines describes frame start stop definitions holds inside ends
    exact readDescription?_rows describes holds inside ends definitions

/-- A directive whose arguments look like the end of its first line. -/
def bracedArguments : Node :=
  { kind := .directive
    children := [Node.paragraph [Node.plain "x".toList] none]
    traits := [("name".toList, .str "Tab-1".toList), ("arguments".toList, .str "a) \x7b(b".toList)] }

def twoLines : Node :=
  { kind := .paramCommand
    children :=
      [Node.paragraph [Node.plain "@a \x7b".toList, { kind := .softBreak }, Node.plain "- b \x7d".toList] none]
    traits := [("name".toList, .str "@n".toList)] }

/-- The description in a container, with an empty line below. -/
def twoLinesFrame : Frame :=
  { lines := readLines "  \\param @n @a \x7b\n  - b \x7d\n\n  c".toList, indent := 2, limit := 4 }

/-- The conditions can be met by arguments full of braces and by a description that goes on in a second
line. -/
theorem commands_reread_twoLines :
    (∃ below, bracedArguments.rows = "@Tab-1(a) \x7b(b) \x7b".toList :: below) ∧
    (∃ header below, bracedArguments.rows = header :: below ∧
      Directive.ofLine? header = some
        { name := "Tab-1".toList, arguments := some "a) \x7b(b".toList, opens := true }) ∧
    twoLines.Describes (.parameter "@n".toList) ["@a \x7b".toList, "- b \x7d".toList] ∧
    readDescription? twoLinesFrame [] 0 4 = some
      { elements := [
          { kind := .paramCommand, markup := ['\\'], traits := [("name".toList, .str "@n".toList)]
            children := [paragraphElement "@a \x7b\n- b \x7d".toList 0 2]
            span := some (0, 2) }]
        stop := 2
        definitions := [] } := by
  have describes : twoLines.Describes (.parameter "@n".toList) ["@a \x7b".toList, "- b \x7d".toList] :=
    { kind := rfl
      name := by rintro _ ⟨⟩; decide
      named := by decide
      text := by decide
      trimmed := by decide
      filled := by decide
      free := by decide
      quiet := by decide }
  have rows : twoLines.rows = ["\\param @n @a \x7b".toList, "- b \x7d".toList] := by decide
  have holds : twoLinesFrame.Holds 0 twoLines.rows := by
    rw [rows]
    intro i row found
    match i, found with
    | 0, found => cases found; decide
    | 1, found => cases found; decide
  have read := commands_reread.2 twoLines _ _ describes twoLinesFrame 0 4 [] holds (by rw [rows]; decide)
    (by rw [rows]; decide)
  have text : Text.unlines ["@a \x7b".toList, "- b \x7d".toList] = "@a \x7b\n- b \x7d".toList := by
    decide
  rw [rows, text] at read
  have header := commands_reread.1 bracedArguments rfl (by decide) (by decide)
  exact ⟨⟨_, rfl⟩, header, describes, read⟩

end Command

end Markdown

end DocComment
