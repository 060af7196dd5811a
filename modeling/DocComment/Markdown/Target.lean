/- The parts of a link: its destination, its title, and the label under which it is defined. -/
import DocComment.Markdown.Entity
import DocComment.Markdown.Url

namespace DocComment.Markdown

set_option autoImplicit false

structure Definition where
  /-- The label in its normal form. -/
  label : Text
  href : Text
  title : Text
  deriving DecidableEq, Repr

/-- The definitions of a document, one for each label. -/
abbrev Definitions := List Definition

namespace Definitions

def find? (definitions : Definitions) (label : Text) : Option Definition :=
  List.find? (fun d => d.label == label) definitions

/-- Adds a definition, unless the label has one. -/
def add (definitions : Definitions) (d : Definition) : Definitions :=
  if (definitions.find? d.label).isSome then definitions else definitions ++ [d]

end Definitions

namespace Target

/-- The normal form of a label: labels are equal up to case and blanks. -/
def normalLabel (label : Text) : Text := Text.upper (Text.lower (Text.squeeze (Text.trim label)))

/-- The text up to a closing angle bracket, and what follows the bracket. -/
def angle? : Text → Option (Text × Text)
  | [] => none
  | '>' :: rest => some ([], rest)
  | '\\' :: c :: rest => (angle? rest).map fun read => ('\\' :: c :: read.1, read.2)
  | c :: rest =>
    if c = '\n' ∨ c = '<' then none
    else (angle? rest).map fun read => (c :: read.1, read.2)

/-- The text of a destination without brackets, inside a number of open parentheses, and what follows
it. It ends at a space, at a control character, or at a parenthesis that closes none of its own. -/
def bare? : Nat → Text → Option (Text × Text)
  | depth, [] => if depth = 0 then some ([], []) else none
  | depth, '\\' :: c :: rest =>
    if c = ' ' then if depth = 0 then some ([], '\\' :: c :: rest) else none
    else (bare? depth rest).map fun read => ('\\' :: c :: read.1, read.2)
  | depth, c :: rest =>
    if c.toNat ≤ 0x20 ∨ c.toNat = 0x7F then if depth = 0 then some ([], c :: rest) else none
    else if c = '(' then
      if 32 ≤ depth then none
      else (bare? (depth + 1) rest).map fun read => (c :: read.1, read.2)
    else if c = ')' then
      match depth with
      | 0 => some ([], c :: rest)
      | depth + 1 => (bare? depth rest).map fun read => (c :: read.1, read.2)
    else (bare? depth rest).map fun read => (c :: read.1, read.2)

/-- The destination at the head of a text, and what follows it. -/
def destination? (t : Text) : Option (Text × Text) :=
  match t with
  | '<' :: rest => (angle? rest).map fun read => (Entity.unescape read.1, read.2)
  | t =>
    match bare? 0 t with
    | some (c :: raw, rest) => some (Entity.unescape (c :: raw), rest)
    | _ => none

/-- The text up to a closing mark, and what follows the mark. -/
def quoted? (mark : Char) : Text → Option (Text × Text)
  | [] => none
  | '\\' :: c :: rest => (quoted? mark rest).map fun read => ('\\' :: c :: read.1, read.2)
  | c :: rest =>
    if c = mark then some ([], rest)
    else if c = '(' ∧ mark = ')' then none
    else (quoted? mark rest).map fun read => (c :: read.1, read.2)

/-- The title at the head of a text, and what follows it. -/
def title? : Text → Option (Text × Text)
  | [] => none
  | c :: rest =>
    if c = '"' ∨ c = '\'' ∨ c = '(' then
      (quoted? (if c = '(' then ')' else c) rest).map fun read => (Entity.unescape read.1, read.2)
    else none

end Target

end DocComment.Markdown
