/- Commands in documentation: a line that describes a parameter or a result, with the lines that
continue it, and directives `@Name(arguments)` whose body stands between braces. A directive ends with
the line that closes its brace, where the braces of directives inside it are counted. -/
import DocComment.Markdown.Frame
import DocComment.Text.Character

namespace DocComment.Markdown

set_option autoImplicit false

inductive Described where
  | parameter (name : Text)
  | result
  deriving DecidableEq, Repr

namespace Described

/-- The parameter that a line describes, and what follows its name: the word, blanks, a name. -/
def parameterOf? (line : Text) : Option (Described × Text) := do
  let rest ← Text.after? "\\param".toList line
  let blanks := rest.takeWhile isBlank
  let name := (rest.drop blanks.length).takeWhile (!isBlank ·)
  if blanks.isEmpty || name.isEmpty then none
  else some (.parameter name, rest.drop (blanks.length + name.length))

def resultOf? (line : Text) : Option (Described × Text) :=
  ["\\returns".toList, "\\return".toList, "\\result".toList].findSome? fun word => do
    let rest ← Text.after? word line
    match rest with
    | [] => some (.result, [])
    | c :: _ => if isBlank c then some (.result, rest) else none

/-- What a line describes, and the beginning of the description. -/
def ofLine? (line : Text) : Option (Described × Text) := parameterOf? line <|> resultOf? line

def kind : Described → Kind
  | parameter _ => .paramCommand
  | result => .returnsCommand

/-- What an element for a description knows beside its text. -/
def traits : Described → Fields
  | parameter name => [("name".toList, .str name)]
  | result => []

end Described

/-- The first line of a directive. -/
structure Directive where
  name : Text
  /-- What stands between the parentheses, if there are any. -/
  arguments : Option Text
  /-- Whether a brace opens a body. -/
  opens : Bool
  deriving DecidableEq, Repr

namespace Directive

/-- Whether nothing but blanks and at most one brace follows, and if so whether there is a brace. -/
def brace? (t : Text) : Option Bool :=
  match Text.trimLeft t with
  | [] => some false
  | '{' :: rest => if rest.all isBlank then some true else none
  | _ => none

/-- Whether a character may stand in a name after its first letter. -/
def isNameChar (c : Char) : Bool := isWordChar c || c == '-'

def ofLine? (line : Text) : Option Directive :=
  match line with
  | '@' :: c :: rest =>
    if isAsciiLetter c then
      let name := c :: rest.takeWhile isNameChar
      match rest.dropWhile isNameChar with
      | '(' :: inner =>
        (Text.cutAtLast? ')' inner).bind fun (arguments, tail) =>
          (brace? tail).map fun opens => { name, arguments := some arguments, opens }
      | tail => (brace? tail).map fun opens => { name, arguments := none, opens }
    else none
  | _ => none

def opensBody (line : Text) : Bool := (ofLine? line).isSome && Text.endsWith (Text.trimRight line) ['{']

def closesBody (line : Text) : Bool := Text.trim line == ['}']

/-- How many lines stand before the one that closes a body inside some more open ones. -/
def closing? : Nat → List Text → Option Nat
  | _, [] => none
  | depth, line :: lines =>
    if closesBody line then
      match depth with
      | 0 => some 0
      | depth + 1 => (closing? depth lines).map (· + 1)
    else if opensBody line then (closing? (depth + 1) lines).map (· + 1)
    else (closing? depth lines).map (· + 1)

/-- What an element for a directive knows beside its blocks. -/
def traits (d : Directive) : Fields :=
  [("name".toList, .str d.name), ("arguments".toList, Json.optionalText d.arguments)]

end Directive

namespace Command

def isStart (line : Text) : Bool :=
  (Described.ofLine? line).isSome || (Directive.ofLine? line).isSome

def startsDescription (frame : Frame) (n : Nat) : Bool :=
  !frame.isCode n && (Described.ofLine? (frame.body n)).isSome

def startsDirective (frame : Frame) (n : Nat) : Bool :=
  !frame.isCode n && (Directive.ofLine? (frame.body n)).isSome

/-- The lines that continue a description, among `count` lines from a line on: up to an empty line, a
line that is indented less than the container, or another command. -/
def continuation (frame : Frame) : Nat → Nat → List Text
  | 0, _ => []
  | count + 1, n =>
    if frame.isEmpty n || frame.isOutdented n || isStart (frame.body n) then []
    else frame.body n :: continuation frame count (n + 1)

def description (pieces : List Text) : Text := Text.trim (Text.unlines (pieces.map Text.trim))

/-- Reads a description. Without text it has no paragraph. -/
def readDescription? (frame : Frame) (definitions : Definitions) (start stop : Nat) :
    Option Reading :=
  if frame.isCode start then none
  else
    (Described.ofLine? (frame.body start)).map fun (described, first) =>
      let more := continuation frame (stop - (start + 1)) (start + 1)
      let next := start + 1 + more.length
      let content := description (first :: more)
      { elements := [
          { kind := described.kind, markup := ['\\'], traits := described.traits
            children := if content.isEmpty then [] else [paragraphElement content start next]
            span := some (start, next) }]
        stop := next
        definitions }

/-- The least indentation of the lines with content. -/
def leastIndent? (lines : List Line) : Option Int :=
  ((lines.filter fun line => !line.isEmpty).map Line.indent).min?

/-- The frame for the body of a directive, which ends before a line. The body is read at its own
indentation, unless the container asks for more. -/
def bodyFrame (frame : Frame) (first closing : Nat) : Frame :=
  { frame with
    limit := closing
    depth := frame.depth + 1
    indent :=
      match leastIndent? ((Frame.range first closing).map frame.line) with
      | none => frame.indent
      | some least => max frame.indent least }

/-- Reads a directive. A body that is not closed goes on to the end of the lines. -/
def readDirective? (inner : Reader) (frame : Frame) (definitions : Definitions)
    (start stop : Nat) : Option Reading :=
  if frame.isCode start then none
  else
    (Directive.ofLine? (frame.body start)).map fun directive =>
      let element : Element := { kind := .directive, markup := ['@'], traits := directive.traits }
      if directive.opens then
        let lines := (Frame.range (start + 1) stop).map frame.body
        let closing :=
          match Directive.closing? 0 lines with
          | some count => start + 1 + count
          | none => start + 1 + lines.length
        let next := if closing < stop then closing + 1 else closing
        let body := inner (bodyFrame frame (start + 1) closing) definitions (start + 1) closing
        { elements := [{ element with children := body.elements, span := some (start, next) }]
          stop := next
          definitions := body.definitions }
      else
        { elements := [{ element with span := some (start, start + 1) }]
          stop := start + 1
          definitions }

/-- Reads a command, where commands are understood. -/
def read? (inner : Reader) (options : Options) (frame : Frame) (definitions : Definitions)
    (start stop : Nat) : Option Reading :=
  if options.commands then
    readDescription? frame definitions start stop <|>
      readDirective? inner frame definitions start stop
  else none

end Command

end DocComment.Markdown
