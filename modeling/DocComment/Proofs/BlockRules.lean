/- The rules for commands as steps of a parser with a state. Such a rule is asked whether a block begins on a
line. If it is asked in silence it only answers; otherwise it also writes the tokens of the block behind those
that are there and moves on to the line after the block. The rule for directives changes the bounds of the
state while the body is tokenized, and sets them back.

`Contract` says what the tokenizer and the containers around a command rely on. The rules keep it whatever
the tokenizer for bodies does to the bounds, as long as it appends nested tokens and leaves the lines alone
(`commandRules_contract`). With a tokenizer that writes down what a reader reads, the rules do what the
readers of commands do (`descriptionRule_eq`, `directiveRule_eq`). -/
import DocComment.Proofs.Braces

namespace DocComment

set_option autoImplicit false

namespace Markdown

/-! ## Tokens -/

/-- Whether a token opens an element, closes one, or is a whole element. -/
inductive Nesting where
  | opens
  | stands
  | closes
  deriving DecidableEq, Repr

/-- A token of the stream in which elements are written down. -/
structure Token where
  nesting : Nesting
  kind : Kind
  tag : Text := []
  content : Text := []
  markup : Text := []
  info : Text := []
  attrs : Fields := []
  traits : Fields := []
  span : Option (Nat × Nat) := none
  hidden : Bool := false
  deriving Repr

/-- Tokens in which everything that is opened is closed by a token of its kind, in the right order. -/
inductive Nested : List Token → Prop
  | nil : Nested []
  | leaf {token : Token} {rest : List Token} (stands : token.nesting = .stands) (later : Nested rest) :
      Nested (token :: rest)
  | block {opening closing : Token} {body rest : List Token} (opens : opening.nesting = .opens)
      (closes : closing.nesting = .closes) (same : closing.kind = opening.kind) (inside : Nested body)
      (later : Nested rest) : Nested (opening :: (body ++ closing :: rest))

theorem Nested.append {first second : List Token} (left : Nested first) (right : Nested second) :
    Nested (first ++ second) := by
  induction left with
  | nil => exact right
  | leaf stands later ih => exact .leaf stands ih
  | block opens closes same inside later _ ih =>
      rw [List.cons_append, List.append_assoc, List.cons_append]
      exact .block opens closes same inside ih

def isWhole (kind : Kind) : Bool :=
  [Kind.fence, .codeBlock, .htmlBlock, .rule, inlineKind].contains kind

end Markdown

open Markdown

mutual

/-- The tokens of an element. What the text of inlines is made of is not among them. -/
def Element.tokens : Element → List Token
  | ⟨kind, tag, children, content, markup, info, attrs, traits, span, hidden⟩ =>
    if isWhole kind then
      [{ nesting := .stands, kind, tag, content, markup, info, attrs, traits, span, hidden }]
    else
      { nesting := .opens, kind, tag, content, markup, info, attrs, traits, span, hidden } ::
        (tokensOf children ++ [{ nesting := .closes, kind, tag }])

def tokensOf : List Element → List Token
  | [] => []
  | element :: elements => element.tokens ++ tokensOf elements

end

mutual

theorem Element.nested_tokens : ∀ element : Element, Nested element.tokens
  | ⟨kind, tag, children, content, markup, info, attrs, traits, span, hidden⟩ => by
      rw [Element.tokens]
      split
      · exact .leaf rfl .nil
      · exact .block rfl rfl rfl (nested_tokensOf children) .nil

theorem nested_tokensOf : ∀ elements : List Element, Nested (tokensOf elements)
  | [] => .nil
  | element :: elements => by
      rw [tokensOf]
      exact (Element.nested_tokens element).append (nested_tokensOf elements)

end

/-- The tokens of an element that is not whole begin with one that knows the lines of the element. -/
theorem Element.exists_opening {element : Element} (parted : isWhole element.kind = false) :
    ∃ opening more, element.tokens = opening :: more ∧ opening.nesting = .opens ∧
      opening.span = element.span := by
  cases element
  rw [Element.tokens, if_neg (by simpa using parted)]
  exact ⟨_, _, rfl, rfl, rfl⟩

namespace Markdown

/-! ## States and rules -/

def Directive.opening (directive : Directive) (first next : Nat) : Token :=
  { nesting := .opens, kind := .directive, markup := ['@'], traits := directive.traits
    span := some (first, next) }

def Directive.closing : Token := { nesting := .closes, kind := .directive }

theorem Directive.nested_tokens (directive : Directive) (first next : Nat) (body : List Token)
    (inside : Nested body) : Nested (directive.opening first next :: (body ++ [closing])) :=
  .block rfl rfl rfl inside .nil

/-- The line before which the body of a directive ends: the one that closes it, or the end of the lines. -/
def Command.bodyEnd (frame : Frame) (start stop : Nat) : Nat :=
  (closingLine? frame start stop).getD (max (start + 1) stop)

structure State where
  /-- The lines, the bounds of the container, and how many elements are open. -/
  frame : Frame
  /-- What holds the lines that are read. -/
  parent : Kind
  tokens : List Token
  /-- The line at which reading goes on. -/
  line : Nat
  definitions : Definitions
  deriving Repr

/-- A rule, given the lines from which on and up to which it may read, and whether it is asked in silence. -/
abbrev BlockRule := State → Nat → Nat → Bool → Bool × State

/-- Reads the blocks between two lines. -/
abbrev Tokenizer := State → Nat → Nat → State

namespace State

def depthAfter (depth : Nat) : Nesting → Nat
  | .opens => depth + 1
  | .stands => depth
  | .closes => depth - 1

def push (state : State) (token : Token) : State :=
  { state with
    tokens := state.tokens ++ [token]
    frame := { state.frame with depth := depthAfter state.frame.depth token.nesting } }

def bounded (state : State) (parent : Kind) (limit : Nat) (indent : Int) : State :=
  { state with parent, frame := { state.frame with limit, indent } }

/-- Writes down a description: its paragraph, if there is text, between the tokens of the command. -/
def writeDescription (state : State) (described : Described) (first : Text) (start stop : Nat) : State :=
  let more := Command.continuation state.frame (stop - (start + 1)) (start + 1)
  let next := start + 1 + more.length
  let content := Command.description (first :: more)
  let span := some (start, next)
  let opened := state.push
    { nesting := .opens, kind := described.kind, markup := ['\\'], traits := described.traits, span }
  let filled :=
    if content.isEmpty then opened
    else
      ((opened.push { nesting := .opens, kind := .paragraph, tag := ['p'], span }).push
        { nesting := .stands, kind := inlineKind, content, span }).push
          { nesting := .closes, kind := .paragraph, tag := ['p'] }
  { filled.push { nesting := .closes, kind := described.kind } with line := next }

/-- Writes down a directive. While its body is tokenized the directive is the parent, and the limit and the
indentation are those of the body. -/
def writeDirective (tokenize : Tokenizer) (state : State) (directive : Directive) (start stop : Nat) : State :=
  if directive.opens then
    let last := Command.bodyEnd state.frame start stop
    let next := if last < stop then last + 1 else last
    let opened := state.push (directive.opening start next)
    let indent := (Command.bodyFrame state.frame (start + 1) last).indent
    let body := tokenize (opened.bounded .directive last indent) (start + 1) last
    let left := body.bounded state.parent state.frame.limit state.frame.indent
    { left.push Directive.closing with line := next }
  else
    let opened := state.push (directive.opening start (start + 1))
    { opened.push Directive.closing with line := start + 1 }

end State

def descriptionRule : BlockRule := fun state start stop silent =>
  if state.frame.isCode start then (false, state)
  else
    match Described.ofLine? (state.frame.body start) with
    | none => (false, state)
    | some (described, first) =>
      if silent then (true, state) else (true, state.writeDescription described first start stop)

def directiveRule (tokenize : Tokenizer) : BlockRule := fun state start stop silent =>
  if state.frame.isCode start then (false, state)
  else
    match Directive.ofLine? (state.frame.body start) with
    | none => (false, state)
    | some directive =>
      if silent then (true, state) else (true, state.writeDirective tokenize directive start stop)

/-! ## The contract -/

/-- A tokenizer that appends nested tokens and leaves the lines as they are. -/
def Tokenizer.Appends (tokenize : Tokenizer) : Prop :=
  ∀ state start stop, ∃ more, (tokenize state start stop).tokens = state.tokens ++ more ∧ Nested more ∧
    (tokenize state start stop).frame.lines = state.frame.lines

/-- What reading a block does to a state: it goes on after the block, within the lines it may read, and
appends nested tokens, the first of which opens an element that knows its lines. What the containers have set
stays as it is. -/
structure Reads (before : State) (start stop : Nat) (after : State) : Prop where
  advances : start < after.line
  within : after.line ≤ stop
  tokens : ∃ opening more, after.tokens = before.tokens ++ opening :: more ∧ opening.nesting = .opens ∧
    opening.span = some (start, after.line) ∧ Nested (opening :: more)
  parent : after.parent = before.parent
  limit : after.frame.limit = before.frame.limit
  indent : after.frame.indent = before.frame.indent
  lines : after.frame.lines = before.frame.lines

/-- What is relied on when a rule is asked about a line: the answer does not depend on silence, in silence and
where the answer is no nothing happens, and otherwise a block is read. -/
structure Contract (rule : BlockRule) (state : State) (start stop : Nat) : Prop where
  answer : (rule state start stop true).1 = (rule state start stop false).1
  silent : (rule state start stop true).2 = state
  refused : (rule state start stop false).1 = false → (rule state start stop false).2 = state
  read : (rule state start stop false).1 = true → Reads state start stop (rule state start stop false).2

namespace State

/-- Writes down what a reader has read. -/
def take (state : State) (reading : Reading) : State :=
  { state with
    tokens := state.tokens ++ tokensOf reading.elements
    line := reading.stop
    definitions := reading.definitions }

/-- The answer of a rule that has found out what it would write down, if anything. -/
def answer (state : State) (silent : Bool) : Option State → Bool × State
  | none => (false, state)
  | some after => (true, if silent then state else after)

end State

/-- A rule whose answer does not depend on silence keeps the contract, if what it writes down does. -/
theorem Contract.of_answer {rule : BlockRule} {state : State} {start stop : Nat} {found : Option State}
    (answers : ∀ silent, rule state start stop silent = state.answer silent found)
    (reads : ∀ after, found = some after → Reads state start stop after) :
    Contract rule state start stop := by
  cases found with
  | none => constructor <;> simp [answers, State.answer]
  | some after =>
      constructor
      · simp [answers, State.answer]
      · simp [answers, State.answer]
      · simp [answers, State.answer]
      · simpa [answers, State.answer] using reads after rfl

variable (state : State) (start stop : Nat) (silent : Bool)

/-- What the rule would write down is found out first, and silence only keeps it from being written. -/
theorem descriptionRule_answer :
    descriptionRule state start stop silent = state.answer silent
      (if state.frame.isCode start then none
      else
        (Described.ofLine? (state.frame.body start)).map fun (described, first) =>
          state.writeDescription described first start stop) := by
  rw [descriptionRule]
  split
  · rfl
  · cases Described.ofLine? (state.frame.body start) with
    | none => rfl
    | some found => cases silent <;> rfl

theorem directiveRule_answer (tokenize : Tokenizer) :
    directiveRule tokenize state start stop silent = state.answer silent
      (if state.frame.isCode start then none
      else
        (Directive.ofLine? (state.frame.body start)).map fun directive =>
          state.writeDirective tokenize directive start stop) := by
  rw [directiveRule]
  split
  · rfl
  · cases Directive.ofLine? (state.frame.body start) with
    | none => rfl
    | some found => cases silent <;> rfl

/-! ## Rules and readers -/

/-- The tokenizer that writes down what a reader reads. -/
def Tokenizer.ofReader (inner : Reader) : Tokenizer := fun state start stop =>
  state.take (inner state.frame state.definitions start stop)

theorem Tokenizer.appends_ofReader (inner : Reader) : Appends (ofReader inner) :=
  fun _ _ _ => ⟨_, rfl, nested_tokensOf _, rfl⟩

theorem Described.isWhole_kind (described : Described) : isWhole described.kind = false := by
  cases described <;> rfl

theorem isWhole_inlineKind : isWhole inlineKind = true := by decide

theorem isWhole_directive : isWhole .directive = false := by decide

theorem isWhole_paragraph : isWhole .paragraph = false := by decide

theorem tokens_paragraphElement (content : Text) (first next : Nat) :
    (paragraphElement content first next).tokens =
      [{ nesting := .opens, kind := .paragraph, tag := ['p'], span := some (first, next) },
       { nesting := .stands, kind := inlineKind, content, span := some (first, next) },
       { nesting := .closes, kind := .paragraph, tag := ['p'] }] := by
  simp [paragraphElement, inlineElement, Element.tokens, tokensOf, isWhole_paragraph, isWhole_inlineKind]

/-- **The rule for descriptions does what their reader does.** -/
theorem descriptionRule_eq :
    descriptionRule state start stop silent = state.answer silent
      ((Command.readDescription? state.frame state.definitions start stop).map state.take) := by
  rw [descriptionRule_answer, Command.readDescription?]
  split
  · rfl
  · rw [Option.map_map]
    congr 2
    funext found
    obtain ⟨described, first⟩ := found
    simp only [Function.comp, State.writeDescription]
    split
    · simp [State.take, State.push, State.depthAfter, tokensOf, Element.tokens, Described.isWhole_kind]
    · simp [State.take, State.push, State.depthAfter, tokensOf, Element.tokens, Described.isWhole_kind,
        tokens_paragraphElement]

theorem Command.bodyEnd_of_some {frame : Frame} {start stop count : Nat}
    (found : Directive.closing? 0 ((Frame.range (start + 1) stop).map frame.body) = some count) :
    bodyEnd frame start stop = start + 1 + count := by
  rw [bodyEnd, closingLine?, found]
  rfl

theorem Command.bodyEnd_of_none {frame : Frame} {start stop : Nat}
    (found : Directive.closing? 0 ((Frame.range (start + 1) stop).map frame.body) = none) :
    bodyEnd frame start stop = start + 1 + ((Frame.range (start + 1) stop).map frame.body).length := by
  rw [bodyEnd, closingLine?, found]
  simp only [Frame.range, List.length_map, List.length_range, Option.map_none, Option.getD_none]
  omega

/-- With the tokenizer of a reader, the tokens that are written down are those of the element that the
reader makes. -/
theorem State.writeDirective_ofReader (inner : Reader) (directive : Directive) :
    let last := Command.bodyEnd state.frame start stop
    let next := if last < stop then last + 1 else last
    let body := inner (Command.bodyFrame state.frame (start + 1) last) state.definitions (start + 1) last
    let element : Element := { kind := .directive, markup := ['@'], traits := directive.traits }
    state.writeDirective (.ofReader inner) directive start stop = state.take
      (if directive.opens then
        { elements := [{ element with children := body.elements, span := some (start, next) }]
          stop := next
          definitions := body.definitions }
      else
        { elements := [{ element with span := some (start, start + 1) }]
          stop := start + 1
          definitions := state.definitions }) := by
  simp only [writeDirective]
  split
  · simp [take, push, bounded, depthAfter, tokensOf, Element.tokens, isWhole_directive, Directive.opening,
      Directive.closing, Tokenizer.ofReader, Command.bodyFrame]
  · simp [take, push, depthAfter, tokensOf, Element.tokens, isWhole_directive, Directive.opening,
      Directive.closing]

/-- **With a tokenizer for what a reader reads, the rule for directives does what their reader does.** -/
theorem directiveRule_eq (inner : Reader) :
    directiveRule (.ofReader inner) state start stop silent = state.answer silent
      ((Command.readDirective? inner state.frame state.definitions start stop).map state.take) := by
  rw [directiveRule_answer, Command.readDirective?]
  split
  · rfl
  · rw [Option.map_map]
    congr 2
    funext directive
    rw [State.writeDirective_ofReader]
    cases found : Directive.closing? 0 ((Frame.range (start + 1) stop).map state.frame.body) with
    | some count =>
        rw [Command.bodyEnd_of_some found]
        simp only [Function.comp, found]
    | none =>
        rw [Command.bodyEnd_of_none found]
        simp only [Function.comp, found]

/-! ## The rules for commands keep the contract -/

theorem Command.length_continuation_le (frame : Frame) (count n : Nat) :
    (continuation frame count n).length ≤ count := by
  induction count generalizing n with
  | zero => exact Nat.le_refl 0
  | succ count ih =>
      rw [continuation]
      split
      · exact Nat.zero_le _
      · exact Nat.succ_le_succ (ih (n + 1))

/-- A description is one element. It covers the lines that are read, which are some of those given. -/
theorem Command.readDescription?_covers {frame : Frame} {definitions : Definitions} {start stop : Nat}
    {reading : Reading} (found : readDescription? frame definitions start stop = some reading)
    (inside : start < stop) :
    ∃ element, reading.elements = [element] ∧ element.span = some (start, reading.stop) ∧
      isWhole element.kind = false ∧ start < reading.stop ∧ reading.stop ≤ stop := by
  rw [readDescription?] at found
  split at found
  · cases found
  · obtain ⟨⟨described, first⟩, -, rfl⟩ := Option.map_eq_some_iff.1 found
    have short := length_continuation_le frame (stop - (start + 1)) (start + 1)
    exact ⟨_, rfl, rfl, described.isWhole_kind, by dsimp only; omega, by dsimp only; omega⟩

theorem Command.bodyEnd_bounds (frame : Frame) {start stop : Nat} (inside : start < stop) :
    start < bodyEnd frame start stop ∧ bodyEnd frame start stop ≤ stop := by
  rw [bodyEnd]
  cases closed : closingLine? frame start stop with
  | some last =>
      have bounds := closingLine?_bounds closed
      exact ⟨bounds.1, Nat.le_of_lt bounds.2⟩
  | none =>
      rw [Option.getD_none]
      omega

/-- One element with the lines it was read from is all that a reading of the rule adds. -/
theorem State.reads_take {reading : Reading} {element : Element} (single : reading.elements = [element])
    (span : element.span = some (start, reading.stop)) (parted : isWhole element.kind = false)
    (advances : start < reading.stop) (within : reading.stop ≤ stop) :
    Reads state start stop (state.take reading) := by
  obtain ⟨opening, more, tokens, opens, lines⟩ := Element.exists_opening parted
  have all : tokensOf reading.elements = opening :: more := by
    rw [single, tokensOf, tokensOf, List.append_nil, tokens]
  refine ⟨advances, within, ⟨opening, more, ?_, opens, lines.trans span, ?_⟩, rfl, rfl, rfl, rfl⟩
  · rw [take, all]
  · rw [← tokens]
    exact element.nested_tokens

/-- Whatever the tokenizer does to the bounds, they are set back once the body is written down. -/
theorem State.reads_writeDirective {tokenize : Tokenizer} (appends : tokenize.Appends) (directive : Directive)
    (inside : start < stop) : Reads state start stop (state.writeDirective tokenize directive start stop) := by
  simp only [writeDirective]
  split
  · -- What the tokenizer does to the parent, the limit and the indentation is undone behind it.
    obtain ⟨after, last⟩ := Command.bodyEnd_bounds state.frame inside
    obtain ⟨more, appended, nested, kept⟩ := appends
      ((state.push (directive.opening start _)).bounded .directive (Command.bodyEnd state.frame start stop) _)
      (start + 1) (Command.bodyEnd state.frame start stop)
    refine ⟨?_, ?_, ⟨directive.opening start _, more ++ [Directive.closing], ?_, rfl, rfl,
      directive.nested_tokens start _ more nested⟩, rfl, rfl, rfl, kept⟩
    · dsimp only
      split <;> omega
    · dsimp only
      split <;> omega
    · simp only [push, bounded] at appended ⊢
      rw [appended, List.append_assoc, List.append_assoc]
      rfl
  · refine ⟨Nat.lt_succ_self start, inside, ⟨directive.opening start (start + 1), [Directive.closing], ?_,
      rfl, rfl, directive.nested_tokens start _ [] .nil⟩, rfl, rfl, rfl, rfl⟩
    rw [push, push, List.append_assoc]
    rfl

theorem descriptionRule_contract (inside : start < stop) : Contract descriptionRule state start stop := by
  refine .of_answer (fun silent => descriptionRule_eq state start stop silent) fun after found => ?_
  obtain ⟨reading, read, rfl⟩ := Option.map_eq_some_iff.1 found
  obtain ⟨element, single, span, parted, advances, within⟩ := Command.readDescription?_covers read inside
  exact state.reads_take start stop single span parted advances within

theorem directiveRule_contract {tokenize : Tokenizer} (appends : tokenize.Appends) (inside : start < stop) :
    Contract (directiveRule tokenize) state start stop := by
  refine .of_answer (fun silent => directiveRule_answer state start stop silent tokenize) fun after found => ?_
  split at found
  · cases found
  · obtain ⟨directive, -, rfl⟩ := Option.map_eq_some_iff.1 found
    exact state.reads_writeDirective start stop appends directive inside

theorem descriptionRule_silent : (descriptionRule state start stop true).1 =
    Command.startsDescription state.frame start := by
  rw [descriptionRule_answer, Command.startsDescription]
  cases state.frame.isCode start <;> cases Described.ofLine? (state.frame.body start) <;> rfl

theorem directiveRule_silent (tokenize : Tokenizer) : (directiveRule tokenize state start stop true).1 =
    Command.startsDirective state.frame start := by
  rw [directiveRule_answer, Command.startsDirective]
  cases state.frame.isCode start <;> cases Directive.ofLine? (state.frame.body start) <;> rfl

/-- **The rules for commands keep the contract,** whatever the tokenizer for bodies does beside appending
nested tokens. In silence they answer whether a command begins on the line. Otherwise they do what the
readers of commands do, if bodies are tokenized as a reader reads them; such a tokenizer appends nested
tokens. -/
theorem commandRules_contract {tokenize : Tokenizer} (appends : tokenize.Appends) (state : State)
    {start stop : Nat} (inside : start < stop) :
    Contract descriptionRule state start stop ∧ Contract (directiveRule tokenize) state start stop ∧
    ((descriptionRule state start stop true).1 = Command.startsDescription state.frame start ∧
      ∀ silent, descriptionRule state start stop silent = state.answer silent
        ((Command.readDescription? state.frame state.definitions start stop).map state.take)) ∧
    ((directiveRule tokenize state start stop true).1 = Command.startsDirective state.frame start ∧
      ∀ inner, (Tokenizer.ofReader inner).Appends ∧
        ∀ silent, directiveRule (.ofReader inner) state start stop silent = state.answer silent
          ((Command.readDirective? inner state.frame state.definitions start stop).map state.take)) :=
  ⟨descriptionRule_contract state start stop inside, directiveRule_contract state start stop appends inside,
    ⟨descriptionRule_silent state start stop, fun silent => descriptionRule_eq state start stop silent⟩,
    directiveRule_silent state start stop tokenize, fun inner =>
      ⟨Tokenizer.appends_ofReader inner, fun silent => directiveRule_eq state start stop silent inner⟩⟩

/-- A tokenizer that reads blocks and leaves the bounds of the state in disorder. -/
def careless : Tokenizer := fun state start stop =>
  (Tokenizer.ofReader (Block.readBlocks {} 20) state start stop).bounded .quote 0 7

/-- In an item, a directive that holds a list with another directive, and below it a description. -/
def commandsInItem : State :=
  { frame :=
      { lines := readLines
          "  @A(x) \x7b\n    - b\n\n      @B \x7b\n      \x7d\n  \x7d\n  \\returns y\n  z".toList
        indent := 2, limit := 8, depth := 2 }
    parent := .listItem
    tokens := [{ nesting := .opens, kind := .bulletList }, { nesting := .opens, kind := .listItem }]
    line := 0
    definitions := [] }

/-- Even a tokenizer that leaves the bounds in disorder keeps the contract of both rules. -/
theorem commandRules_contract_commandsInItem :
    careless.Appends ∧
    ((directiveRule careless commandsInItem 0 8 false).1 = true ∧
      (directiveRule careless commandsInItem 0 8 false).2.line = 6 ∧
      Reads commandsInItem 0 8 (directiveRule careless commandsInItem 0 8 false).2) ∧
    (descriptionRule commandsInItem 6 8 false).1 = true ∧
      (descriptionRule commandsInItem 6 8 false).2.line = 8 ∧
      Reads commandsInItem 6 8 (descriptionRule commandsInItem 6 8 false).2 := by
  have appends : careless.Appends := fun state start stop =>
    Tokenizer.appends_ofReader (Block.readBlocks {} 20) state start stop
  have directive : (directiveRule careless commandsInItem 0 8 false).1 = true := by decide
  have described : (descriptionRule commandsInItem 6 8 false).1 = true := by decide
  exact ⟨appends,
    ⟨directive, by decide,
      (commandRules_contract appends commandsInItem (show 0 < 8 by decide)).2.1.read directive⟩,
    described, by decide,
    (commandRules_contract appends commandsInItem (show 6 < 8 by decide)).1.read described⟩

end Markdown

end DocComment
