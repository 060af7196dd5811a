/- Documentation comments and the markup inside them. A comment is written as lines that begin with
three slashes, or as one block from a slash and two stars to a star and a slash. Other text is taken
for markup and only trimmed. -/
import DocComment.Text.Blank

namespace DocComment.Comment

set_option autoImplicit false

/-- The text without one leading space or tab. -/
def dropIndent : Text → Text
  | [] => []
  | c :: rest => if isIndent c then rest else c :: rest

/-- A line of a line comment without its slashes. A line that has none stays whole. -/
def undressLine (line : Text) : Text :=
  match Text.after? ['/', '/', '/'] (Text.trimLeft line) with
  | some rest => dropIndent rest
  | none => line

/-- A line of a block comment without its leading blanks and its star. -/
def undressBlockLine (line : Text) : Text :=
  match Text.trimLeft line with
  | '*' :: rest => dropIndent rest
  | start => start

/-- The text of a block comment after its opening, without its closing. -/
def dropClosing (t : Text) : Text := (Text.before? ['*', '/'] t).getD t

/-- The markup inside a comment. -/
def strip (raw : Text) : Text :=
  let working := Text.trim raw
  if Text.startsWith working ['/', '/', '/'] then
    Text.unlines ((Text.lines working).map undressLine)
  else
    match Text.after? ['/', '*', '*'] working with
    | some body =>
      Text.trim (Text.unlines ((Text.lines (dropClosing body)).map undressBlockLine))
    | none => working

/-- The markup of several comments, one after the other. Blank pieces are left out. -/
def join (pieces : List Text) : Text :=
  Text.unlines ((pieces.filter fun piece => !(Text.trim piece).isEmpty).map strip)

end DocComment.Comment
