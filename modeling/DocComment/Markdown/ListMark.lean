/- Marks of list items: a hyphen, plus or star, or up to nine digits with a point or a parenthesis. A
mark is followed by a space, a tab or the end of the line. -/
import DocComment.Markdown.Frame
import DocComment.Text.Character

namespace DocComment.Markdown

set_option autoImplicit false

/-- The mark at the head of a list item. -/
structure ListMark where
  /-- The digits of an ordered item; none for a bullet. -/
  digits : Option Text
  /-- The last character of the mark. -/
  sign : Char
  deriving DecidableEq, Repr

namespace ListMark

def length (mark : ListMark) : Nat := ((mark.digits.getD []).length) + 1

def number (mark : ListMark) : Nat :=
  (mark.digits.getD []).foldl (fun n c => 10 * n + (c.toNat - 48)) 0

def endsBefore : Text → Bool
  | [] => true
  | c :: _ => isIndent c

def ordered? (body : Text) : Option ListMark :=
  let digits := body.takeWhile isAsciiDigit
  match body.drop digits.length with
  | sign :: rest =>
    if (sign == '.' || sign == ')') && 1 ≤ digits.length && digits.length ≤ 9 && endsBefore rest then
      some { digits := some digits, sign }
    else none
  | [] => none

def bullet? (body : Text) : Option ListMark :=
  match body with
  | sign :: rest =>
    if (sign == '*' || sign == '-' || sign == '+') && endsBefore rest then
      some { digits := none, sign }
    else none
  | [] => none

def read? (body : Text) : Option ListMark := ordered? body <|> bullet? body

/-- The mark of an item that continues a list: of the same kind, and with the same sign. -/
def next? (mark : ListMark) (body : Text) : Option ListMark :=
  (if mark.digits.isSome then ordered? body else bullet? body).filter fun m => m.sign == mark.sign

/-- Whether a line continues a paragraph although it is indented like an item of a list. -/
def isContinuation (frame : Frame) (n : Nat) : Bool :=
  0 ≤ frame.listIndent && 4 ≤ (frame.line n).indent - frame.listIndent && frame.isOutdented n

/-- The mark of the list that begins on a line. A list that interrupts a paragraph has content on its
first line, and the number one if it is ordered. -/
def starts? (inParagraph : Bool) (frame : Frame) (n : Nat) : Option ListMark :=
  if frame.isCode n || isContinuation frame n then none
  else
    (read? (frame.body n)).filter fun mark =>
      !(inParagraph && !frame.isOutdented n) ||
        ((mark.digits.isNone || mark.number == 1) &&
          !((frame.body n).drop mark.length).all isIndent)

end ListMark

end DocComment.Markdown
