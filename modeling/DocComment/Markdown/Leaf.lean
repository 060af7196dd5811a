/- Blocks without blocks inside: indented code, fenced code, thematic breaks, headings with number
signs, and HTML. Each has a test for the line that begins it, and a reader. -/
import DocComment.Markdown.Frame
import DocComment.Markdown.Html

namespace DocComment.Markdown

set_option autoImplicit false

namespace Fence

/-- The line that opens fenced code. -/
structure Opening where
  mark : Char
  length : Nat
  info : Text
  deriving DecidableEq, Repr

/-- The fence that a line opens: three or more tildes, or three or more backticks with none after
them. -/
def opening? (body : Text) : Option Opening :=
  match body with
  | [] => none
  | mark :: _ =>
    let length := (body.takeWhile (· == mark)).length
    let info := body.drop length
    if (mark == '~' || (mark == '`' && !info.contains '`')) && 3 ≤ length then
      some { mark, length, info }
    else none

def closes (fence : Opening) (body : Text) : Bool :=
  let length := (body.takeWhile (· == fence.mark)).length
  fence.length ≤ length && (body.drop length).all isIndent

def starts (frame : Frame) (n : Nat) : Bool := !frame.isCode n && (opening? (frame.body n)).isSome

/-- The line after the code, and whether that line closes the fence, among `count` lines. The code
ends before a line that is indented less than the container, and before an empty line that ends the
text without a newline. -/
def findEnd (frame : Frame) (fence : Opening) : Nat → Nat → Nat × Bool
  | 0, n => (n, false)
  | count + 1, n =>
    let line := frame.line n
    if !line.isEmpty && frame.isOutdented n then (n, false)
    else if line.isEmpty && !line.terminated then (n, false)
    else if !frame.isCode n && closes fence line.body then (n, true)
    else findEnd frame fence count (n + 1)

def read? (frame : Frame) (definitions : Definitions) (start stop : Nat) : Option Reading :=
  if frame.isCode start then none
  else
    match opening? (frame.body start) with
    | none => none
    | some fence =>
      let (last, closed) := findEnd frame fence (stop - (start + 1)) (start + 1)
      let next := if closed then last + 1 else last
      some {
        elements := [
          { kind := .fence, tag := "code".toList
            content := frame.verbatim (start + 1) last (frame.line start).indent
            markup := List.replicate fence.length fence.mark
            info := fence.info
            span := some (start, next) }]
        stop := next
        definitions }

end Fence

namespace CodeBlock

/-- The line after the last line of code, among `count` lines from a line on. Empty lines belong to the
code only if code follows them. -/
def findEnd (frame : Frame) : Nat → Nat → Nat → Nat
  | 0, _, last => last
  | count + 1, n, last =>
    if frame.isEmpty n then findEnd frame count (n + 1) last
    else if frame.isCode n then findEnd frame count (n + 1) (n + 1)
    else last

def read? (frame : Frame) (definitions : Definitions) (start stop : Nat) : Option Reading :=
  if frame.isCode start then
    let next := findEnd frame (stop - (start + 1)) (start + 1) (start + 1)
    some {
      elements := [
        { kind := .codeBlock, tag := "code".toList
          content := frame.joined start next (4 + frame.indent) ++ ['\n']
          span := some (start, next) }]
      stop := next
      definitions }
  else none

end CodeBlock

namespace Rule

/-- The mark of a thematic break and how often it occurs. -/
def marks? (body : Text) : Option (Char × Nat) :=
  match body with
  | [] => none
  | mark :: rest =>
    if (mark == '*' || mark == '-' || mark == '_') && rest.all fun c => c == mark || isIndent c then
      let count := body.count mark
      if 3 ≤ count then some (mark, count) else none
    else none

def starts (frame : Frame) (n : Nat) : Bool := !frame.isCode n && (marks? (frame.body n)).isSome

/-- Reads a thematic break. Its markup has one mark more than the line. -/
def read? (frame : Frame) (definitions : Definitions) (start : Nat) : Option Reading :=
  if frame.isCode start then none
  else
    (marks? (frame.body start)).map fun (mark, count) =>
      { elements := [
          { kind := .rule, tag := "hr".toList, markup := List.replicate (count + 1) mark
            span := some (start, start + 1) }]
        stop := start + 1
        definitions }

end Rule

namespace Heading

/-- The text of a heading without the number signs that close it. -/
def dropClosing (t : Text) : Text :=
  let kept := Text.dropRightWhile isIndent t
  let head := Text.dropRightWhile (· == '#') kept
  match head.getLast? with
  | some c => if isIndent c then head else kept
  | none => kept

def parts? (body : Text) : Option (Nat × Text) :=
  let level := (body.takeWhile (· == '#')).length
  let rest := body.drop level
  let separated :=
    match rest with
    | [] => true
    | c :: _ => isIndent c
  if 1 ≤ level && level ≤ 6 && separated then some (level, Text.trim (dropClosing rest)) else none

def starts (frame : Frame) (n : Nat) : Bool := !frame.isCode n && (parts? (frame.body n)).isSome

def element (level : Nat) (content markup : Text) (first textStop stop : Nat) : Element :=
  { kind := .heading, tag := 'h' :: Text.ofNat level, markup
    children := [inlineElement content first textStop], span := some (first, stop) }

def read? (frame : Frame) (definitions : Definitions) (start : Nat) : Option Reading :=
  if frame.isCode start then none
  else
    (parts? (frame.body start)).map fun (level, content) =>
      { elements :=
          [element level content (List.replicate level '#') start (start + 1) (start + 1)]
        stop := start + 1
        definitions }

end Heading

namespace HtmlBlock

/-- Whether a line begins an HTML block that interrupts a paragraph. -/
def interrupts (frame : Frame) (n : Nat) : Bool :=
  !frame.isCode n &&
    match Html.opening? (frame.body n) with
    | some opening => opening.interrupts
    | none => false

/-- The line after an HTML block, among `count` lines from a line on. -/
def findEnd (frame : Frame) (ending : Html.Ending) : Nat → Nat → Nat
  | 0, n => n
  | count + 1, n =>
    if frame.isOutdented n then n
    else
      let body := frame.body n
      if ending.holds body then if body.isEmpty then n else n + 1
      else findEnd frame ending count (n + 1)

def read? (frame : Frame) (definitions : Definitions) (start stop : Nat) : Option Reading :=
  if frame.isCode start then none
  else
    match Html.opening? (frame.body start) with
    | none => none
    | some opening =>
      let next :=
        if opening.ending.holds (frame.body start) then start + 1
        else findEnd frame opening.ending (stop - (start + 1)) (start + 1)
      some {
        elements := [
          { kind := .htmlBlock, content := frame.verbatim start next frame.indent
            span := some (start, next) }]
        stop := next
        definitions }

end HtmlBlock

end DocComment.Markdown
