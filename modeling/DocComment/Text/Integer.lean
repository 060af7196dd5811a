/- Integers read from text: blanks around, one sign, decimal digits of any script, single low lines
between digits. Not every blank may stand around an integer: the four separators U+001C to U+001F, which
count as blank elsewhere, make it malformed. A numeral of more than 4300 digits is refused before it is
evaluated. -/
import DocComment.Text.Blank
import DocComment.Text.Character
import DocComment.Text.Quoted

namespace DocComment

set_option autoImplicit false

inductive IntegerFault where
  /-- The text does not spell an integer. -/
  | malformed (literal : Text)
  /-- The numeral has too many digits. -/
  | tooLong (digits : Nat)
  deriving DecidableEq, Repr

/-- The most digits a numeral may have. -/
def digitLimit : Nat := 4300

/-- The words for a fault. A literal is shown up to its two hundredth character. -/
def IntegerFault.message : IntegerFault → Text
  | .malformed literal =>
    "invalid literal for int() with base 10: ".toList ++ (Text.quoted literal).take 200
  | .tooLong digits =>
    "Exceeds the limit (".toList ++ Text.ofNat digitLimit ++
      " digits) for integer string conversion: value has ".toList ++ Text.ofNat digits ++
      " digits; use sys.set_int_max_str_digits() to increase the limit".toList

namespace Text

/-- The value of a sequence of digits, the most significant first. -/
def digitsValue (digits : List Nat) : Nat := digits.foldl (fun n d => 10 * n + d) 0

/-- The digits at the head of a text and what follows them. Low lines may stand between two digits;
one that stands elsewhere, or no digit where one is due, gives nothing. -/
def numeral? : Bool → Text → Option (List Nat × Text)
  | due, [] => if due then none else some ([], [])
  | due, c :: rest =>
    match decimalValue? c with
    | some d => (numeral? false rest).map fun read => (d :: read.1, read.2)
    | none =>
      if due then none
      else if c = '_' then numeral? true rest
      else some ([], c :: rest)

/-- The sign of a number and the rest of its text. -/
def sign : Text → Bool × Text
  | '-' :: rest => (true, rest)
  | '+' :: rest => (false, rest)
  | t => (false, t)

/-- Whether a blank may stand around an integer. -/
def isIntegerBlank (c : Char) : Bool := isBlank c && !(0x1C ≤ c.toNat && c.toNat ≤ 0x1F)

/-- A text without the blanks that may stand around an integer. -/
def integerCore (t : Text) : Text := dropRightWhile isIntegerBlank (t.dropWhile isIntegerBlank)

/-- The integer that a text spells. The digits are counted before what follows them is looked at. -/
def toInteger (t : Text) : Except IntegerFault Int :=
  let (negative, rest) := sign (integerCore t)
  match numeral? true rest with
  | none => .error (.malformed t)
  | some (digits, rest) =>
    if digitLimit < digits.length then .error (.tooLong digits.length)
    else if rest.isEmpty then
      .ok (if negative then -(digitsValue digits : Int) else digitsValue digits)
    else .error (.malformed t)

end Text

end DocComment
