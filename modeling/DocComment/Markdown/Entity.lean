/- Character references: `&name;`, `&#12;` and `&#x1F;`, and texts in which they and backslash escapes
are read. -/
import DocComment.Markdown.EntityTable
import DocComment.Text.Character

namespace DocComment.Markdown.Entity

set_option autoImplicit false

/-- Whether a reference may stand for a code point: not for a surrogate, a noncharacter, most control
characters or a number beyond the last code point. -/
def isValidCode (code : Nat) : Bool :=
  !((0xD800 ≤ code && code ≤ 0xDFFF) || (0xFDD0 ≤ code && code ≤ 0xFDEF) ||
    0xFFFE ≤ code % 0x10000 || code ≤ 0x08 || code == 0x0B || (0x0E ≤ code && code ≤ 0x1F) ||
    (0x7F ≤ code && code ≤ 0x9F) || 0x10FFFF < code)

def named? : Text → Option Text
  | [] => none
  | c :: rest => do
    let rows ← rows.lookup c
    let codes ← rows.lookup (String.ofList rest)
    some (codes.map Char.ofNat)

def number (base : Nat) (digits : Text) : Nat := digits.foldl (fun n c => base * n + hexValue c) 0

/-- The digits of a numeric reference after its number sign, their base, and the text after its
semicolon. -/
def digits? (hexLimit decimalLimit : Nat) (t : Text) : Option (Nat × Text × Text) :=
  match t with
  | [] => none
  | c :: rest =>
    let (base, limit, body) :=
      if c == 'x' || c == 'X' then (16, hexLimit, rest) else (10, decimalLimit, c :: rest)
    let accepts := if base = 16 then isHexDigit else isAsciiDigit
    let digits := body.takeWhile accepts
    match body.drop digits.length with
    | ';' :: after =>
      if digits.isEmpty || limit < digits.length then none else some (base, digits, after)
    | _ => none

/-- The name of a reference and the text after its semicolon. -/
def name? (t : Text) : Option (Text × Text) :=
  let name := t.takeWhile fun c => isAsciiLetter c || isAsciiDigit c
  match t.drop name.length with
  | ';' :: after => if name.length < 2 || 32 < name.length then none else some (name, after)
  | _ => none

/-- What the reference at the head of a text stands for, and the text after it. A number that stands
for nothing gives the replacement character. -/
def read? : Text → Option (Text × Text)
  | '&' :: '#' :: rest => do
    let (base, digits, after) ← digits? 6 7 rest
    let code := number base digits
    some ([if isValidCode code then Char.ofNat code else Char.ofNat 0xFFFD], after)
  | '&' :: rest => do
    let (name, after) ← name? rest
    let content ← named? name
    some (content, after)
  | _ => none

/-- What the reference at the head of a link target or title stands for. A number that stands for
nothing is no reference there. -/
def readStrict? : Text → Option (Text × Text)
  | '&' :: '#' :: rest => do
    let (base, digits, after) ← digits? 8 8 rest
    let code := number base digits
    if isValidCode code then some ([Char.ofNat code], after) else none
  | '&' :: rest => do
    let (name, after) ← name? rest
    let content ← named? name
    some (content, after)
  | _ => none

/-- A text of at most `fuel` pieces with escapes and references read. -/
def unescapeUpTo : Nat → Text → Text
  | _, [] => []
  | 0, t => t
  | fuel + 1, c :: rest =>
    match c, rest with
    | '\\', d :: rest =>
      if isAsciiPunctuation d then d :: unescapeUpTo fuel rest
      else '\\' :: unescapeUpTo fuel (d :: rest)
    | '&', rest =>
      match readStrict? ('&' :: rest) with
      | some (content, after) => content ++ unescapeUpTo fuel after
      | none => '&' :: unescapeUpTo fuel rest
    | c, rest => c :: unescapeUpTo fuel rest

def unescape (t : Text) : Text := unescapeUpTo t.length t

end DocComment.Markdown.Entity
