/- Link definitions: `[label]: destination "title"`. A definition may go on over several lines. If what
follows the destination is no title, or something follows the title, the definition ends with its
destination, provided that nothing else stands on that line. -/
import DocComment.Markdown.Paragraph

namespace DocComment.Markdown.Definition

set_option autoImplicit false

/-- The text that is still to be read: what is left of the lines that were taken, the lines that may
follow, and how many of these were taken. -/
structure Cursor where
  rest : Text
  more : List Text
  taken : Nat
  deriving Repr

namespace Cursor

/-- Takes one more line, if there is one. -/
def load (c : Cursor) : Cursor :=
  match c.more with
  | [] => c
  | line :: more => { rest := c.rest ++ line, more, taken := c.taken + 1 }

def all (c : Cursor) : Text := c.rest ++ c.more.flatten

/-- Reads a label up to its closing bracket, at most `fuel` characters. -/
def label? : Nat → Cursor → Option (Text × Cursor)
  | 0, _ => none
  | fuel + 1, c =>
    let go := fun (read : Text) (c : Cursor) =>
      (label? fuel c).map fun rest => (read ++ rest.1, rest.2)
    match c.rest with
    | [] => none
    | ']' :: rest => some ([], { c with rest })
    | '[' :: _ => none
    | '\\' :: '\n' :: rest => go ['\\', '\n'] (load { c with rest })
    | '\\' :: d :: rest => go ['\\', d] { c with rest }
    | '\n' :: rest => go ['\n'] (load { c with rest })
    | d :: rest => go [d] { c with rest }

/-- Passes spaces, tabs and newlines, at most `fuel` of them. -/
def skipBlanks : Nat → Cursor → Cursor
  | 0, c => c
  | fuel + 1, c =>
    match c.rest with
    | '\n' :: rest => skipBlanks fuel (load { c with rest })
    | ' ' :: rest => skipBlanks fuel { c with rest }
    | '\t' :: rest => skipBlanks fuel { c with rest }
    | _ => c

end Cursor

def continuation? (options : Options) (frame : Frame) (n : Nat) : Option Text :=
  if frame.isEmpty n then none
  else if !Paragraph.continues frame n && interrupts options false frame n then none
  else
    let line := frame.line n
    some (line.body ++ (if line.terminated then ['\n'] else []))

/-- The lines that may continue a definition, among `count` lines from a line on. -/
def continuations (options : Options) (frame : Frame) : Nat → Nat → List Text
  | 0, _ => []
  | count + 1, n =>
    match continuation? options frame n with
    | none => []
    | some line => line :: continuations options frame count (n + 1)

/-- Whether only spaces and tabs are left on a line. -/
def endsLine (t : Text) : Bool :=
  match t.dropWhile isIndent with
  | [] => true
  | c :: _ => c == '\n'

/-- The title after a destination, and how many more lines it takes. -/
def title? (destinationEnd : Cursor) : Option (Text × Text × Nat) :=
  let size := destinationEnd.all.length
  let c := destinationEnd.skipBlanks size
  if c.all.length = size then none
  else do
    let all := c.all
    let (title, rest) ← Target.title? all
    let lines := (all.take (all.length - rest.length)).count '\n'
    some (title, rest, c.taken + lines)

/-- The title of a definition and the number of lines that it takes, once its destination is read. -/
def finish? (destinationEnd : Cursor) : Option (Text × Nat) :=
  let bare := if endsLine destinationEnd.rest then some ([], destinationEnd.taken) else none
  match title? destinationEnd with
  | none => bare
  | some (title, rest, taken) =>
    if endsLine rest then some (title, taken)
    else if title.isEmpty then none
    else bare

/-- Reads a definition from its text, and says how many lines it takes beside the first. -/
def ofCursor? (c : Cursor) : Option (Definition × Nat) :=
  match c.rest with
  | '[' :: rest => do
    let (label, c) ← Cursor.label? (c.all.length + 1) { c with rest }
    match c.rest with
    | ':' :: rest =>
      let c := Cursor.skipBlanks c.all.length { c with rest }
      let (destination, rest) ← Target.destination? c.rest
      let href := Url.normalize destination
      let label := Target.normalLabel label
      let (title, taken) ← finish? { c with rest }
      if Url.isAllowed href && !label.isEmpty then some ({ label, href, title }, taken) else none
    | _ => none
  | _ => none

/-- Reads a definition. It leaves no element. -/
def read? (options : Options) (frame : Frame) (definitions : Definitions) (start : Nat) :
    Option Reading :=
  if frame.isCode start || (frame.body start).head? != some '[' then none
  else
    let line := frame.line start
    let c : Cursor :=
      { rest := line.body ++ (if line.terminated then ['\n'] else [])
        more := continuations options frame (frame.limit - (start + 1)) (start + 1)
        taken := 0 }
    (ofCursor? c).map fun (definition, taken) =>
      { stop := start + 1 + taken, definitions := definitions.add definition }

end DocComment.Markdown.Definition
