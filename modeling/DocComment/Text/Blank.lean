/- Blank characters: the white space of Unicode together with the separators of U+001C to U+001F.
Trimming removes them at the ends of a text. -/
import DocComment.Text.Basic

namespace DocComment

set_option autoImplicit false

/-- White space in the wide sense. The zero width characters U+200B and U+FEFF are not blank. -/
def isBlank (c : Char) : Bool :=
  Text.inRanges [(0x09, 0x0D), (0x1C, 0x20), (0x85, 0x85), (0xA0, 0xA0), (0x1680, 0x1680),
    (0x2000, 0x200A), (0x2028, 0x2029), (0x202F, 0x202F), (0x205F, 0x205F), (0x3000, 0x3000)]
    c.toNat

/-- The two characters that indent a line. -/
def isIndent (c : Char) : Bool := c == ' ' || c == '\t'

namespace Text

def trimLeft (t : Text) : Text := t.dropWhile isBlank

def trimRight (t : Text) : Text := dropRightWhile isBlank t

def trim (t : Text) : Text := trimRight (trimLeft t)

/-- The first word of a text, and what follows the blanks after it. -/
def firstWord (t : Text) : Text × Text :=
  let start := trimLeft t
  (start.takeWhile (!isBlank ·), trimLeft (start.dropWhile (!isBlank ·)))

/-- The text with every run of blanks read as one space. -/
def squeeze : Text → Text
  | [] => []
  | c :: rest =>
    if isBlank c then
      match rest with
      | [] => [' ']
      | d :: _ => if isBlank d then squeeze rest else ' ' :: squeeze rest
    else c :: squeeze rest

end Text

end DocComment
