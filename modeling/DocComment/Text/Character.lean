/- Classes of characters: letters and digits of ASCII, word characters, punctuation, digits. -/
import DocComment.Text.Basic
import DocComment.Text.DigitTable
import DocComment.Text.PunctuationTable
import DocComment.Text.WordTable

namespace DocComment

set_option autoImplicit false

/-- A letter of the Latin alphabet without marks. -/
def isAsciiLetter (c : Char) : Bool := ('a' ≤ c && c ≤ 'z') || ('A' ≤ c && c ≤ 'Z')

def isAsciiDigit (c : Char) : Bool := '0' ≤ c && c ≤ '9'

def isHexDigit (c : Char) : Bool :=
  isAsciiDigit c || ('a' ≤ c && c ≤ 'f') || ('A' ≤ c && c ≤ 'F')

def hexValue (c : Char) : Nat :=
  if isAsciiDigit c then c.toNat - 48 else if 'a' ≤ c then c.toNat - 87 else c.toNat - 55

/-- A letter, a number of any kind, or the low line. -/
def isWordChar (c : Char) : Bool :=
  if c.toNat < 0x80 then isAsciiLetter c || isAsciiDigit c || c == '_'
  else Text.inRanges Text.wordRanges c.toNat

def isAsciiPunctuation (c : Char) : Bool :=
  ('!' ≤ c && c ≤ '/') || (':' ≤ c && c ≤ '@') || ('[' ≤ c && c ≤ '`') || ('{' ≤ c && c ≤ '~')

def isPunctuation (c : Char) : Bool :=
  if c.toNat < 0x80 then isAsciiPunctuation c
  else Text.inRanges Text.punctuationRanges c.toNat

/-- The value of a decimal digit of any script. -/
def decimalValue? (c : Char) : Option Nat :=
  if c.toNat < 0x80 then if isAsciiDigit c then some (c.toNat - 48) else none
  else
    (Text.decimalZeros.find? fun base => base ≤ c.toNat && c.toNat ≤ base + 9).map
      fun base => c.toNat - base

/-- A decimal digit of any script, or another character that stands for one digit. -/
def isFigure (c : Char) : Bool :=
  (decimalValue? c).isSome || Text.inRanges Text.figureRanges c.toNat

end DocComment
