/- Text as a list of characters, so that every reader in the library is a recursion on the data.
Lines are the pieces between newlines: a text always has at least one line, and joining the lines
with newlines gives the text back. -/

namespace DocComment

set_option autoImplicit false

/-- A sequence of Unicode scalar values. Lengths, columns and offsets count these. -/
abbrev Text := List Char

namespace Text

/-- The pieces of a text between the occurrences of a separator, the empty ones included. -/
def splitOn (sep : Char) : Text → List Text
  | [] => [[]]
  | c :: rest =>
    if c = sep then [] :: splitOn sep rest
    else
      match splitOn sep rest with
      | [] => [[c]]
      | piece :: pieces => (c :: piece) :: pieces

def lines (t : Text) : List Text := splitOn '\n' t

def joinWith (sep : Text) : List Text → Text
  | [] => []
  | [piece] => piece
  | piece :: next :: pieces => piece ++ sep ++ joinWith sep (next :: pieces)

def unlines (pieces : List Text) : Text := joinWith ['\n'] pieces

/-- The text up to its last character that fails the test. -/
def dropRightWhile (drop : Char → Bool) : Text → Text
  | [] => []
  | c :: rest =>
    match dropRightWhile drop rest with
    | [] => if drop c then [] else [c]
    | kept => c :: kept

/-- What follows a given beginning, if the text begins so. -/
def after? : Text → Text → Option Text
  | [], t => some t
  | _ :: _, [] => none
  | h :: head, c :: rest => if h = c then after? head rest else none

def startsWith (t head : Text) : Bool := (after? head t).isSome

/-- The text before a given ending, if it ends so. -/
def before? (tail t : Text) : Option Text :=
  (after? tail.reverse t.reverse).map List.reverse

def endsWith (t tail : Text) : Bool := (before? tail t).isSome

def offsetOf? (piece : Text) : Text → Option Nat
  | [] => if piece.isEmpty then some 0 else none
  | c :: rest =>
    if startsWith (c :: rest) piece then some 0 else (offsetOf? piece rest).map (· + 1)

def includes (t piece : Text) : Bool := (offsetOf? piece t).isSome

/-- The text before the first occurrence of a character and the text after it. -/
def cutAt? (sep : Char) : Text → Option (Text × Text)
  | [] => none
  | c :: rest =>
    if c = sep then some ([], rest)
    else (cutAt? sep rest).map fun cut => (c :: cut.1, cut.2)

/-- The text before the last occurrence of a character and the text after it. -/
def cutAtLast? (sep : Char) : Text → Option (Text × Text)
  | [] => none
  | c :: rest =>
    match cutAtLast? sep rest with
    | some cut => some (c :: cut.1, cut.2)
    | none => if c = sep then some ([], rest) else none

/-- Carriage returns, alone or before a newline, read as newlines. -/
def plainNewlines : Text → Text
  | [] => []
  | '\r' :: '\n' :: rest => '\n' :: plainNewlines rest
  | c :: rest => (if c = '\r' then '\n' else c) :: plainNewlines rest

def ofNat (n : Nat) : Text := Nat.toDigits 10 n

/-- An integer in decimal digits, with a sign if it is negative. -/
def ofInt : Int → Text
  | .ofNat n => ofNat n
  | .negSucc n => '-' :: ofNat (n + 1)

/-- Whether a code point lies in one of the inclusive ranges. -/
def inRanges (ranges : List (Nat × Nat)) (code : Nat) : Bool :=
  ranges.any fun range => range.1 ≤ code && code ≤ range.2

end Text

end DocComment
