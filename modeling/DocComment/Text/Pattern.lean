/- Patterns with alternatives. A pattern maps a text to the remainders after each way in which it can
match at the head, the preferred way first; a sequence of patterns may fall back on a later way. -/
import DocComment.Text.Blank

namespace DocComment

set_option autoImplicit false

/-- The remainders after the ways to match, in the order of preference. -/
abbrev Pattern := Text → List Text

namespace Pattern

/-- One character of a class. -/
def one (accepts : Char → Bool) : Pattern
  | [] => []
  | c :: rest => if accepts c then [rest] else []

def literal (head : Text) : Pattern := fun t => (Text.after? head t).toList

def andThen (p q : Pattern) : Pattern := fun t => (p t).flatMap q

def orElse (p q : Pattern) : Pattern := fun t => p t ++ q t

def optional (p : Pattern) : Pattern := fun t => p t ++ [t]

/-- As many characters of a class as there are, or fewer. -/
def run (accepts : Char → Bool) : Pattern
  | [] => [[]]
  | c :: rest => if accepts c then run accepts rest ++ [c :: rest] else [c :: rest]

/-- One or more characters of a class, as many as there are, or fewer. -/
def run1 (accepts : Char → Bool) : Pattern := andThen (one accepts) (run accepts)

/-- A pattern as often as it matches, at most `fuel` times, or less often. -/
def repeated (p : Pattern) : Nat → Pattern
  | 0 => fun t => [t]
  | fuel + 1 => fun t => (p t).flatMap (repeated p fuel) ++ [t]

/-- The remainder after the preferred way to match. -/
def match? (p : Pattern) (t : Text) : Option Text := (p t).head?

end Pattern

end DocComment
