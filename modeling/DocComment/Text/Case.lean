/- Lower and upper case of a text by the full maps of Unicode. One letter can have several
characters in the other case, and a capital sigma has a form of its own at the end of a word. -/
import DocComment.Text.Basic
import DocComment.Text.CaseTable

namespace DocComment.Text

set_option autoImplicit false

/-- The image of a code point under the first row that maps it. -/
def mapRow? (rows : List (Nat × Nat × Nat × Nat)) (code : Nat) : Option Nat :=
  (rows.find? fun (first, last, step, _) =>
    first ≤ code && code ≤ last && (code - first) % step == 0).map
      fun (first, _, _, image) => image + (code - first)

/-- The image of one character under a case map given by rows and sequences. -/
def mapCase (rows : List (Nat × Nat × Nat × Nat)) (sequences : List (Nat × List Nat))
    (c : Char) : Text :=
  match mapRow? rows c.toNat with
  | some image => [Char.ofNat image]
  | none =>
    match sequences.lookup c.toNat with
    | some images => images.map Char.ofNat
    | none => [c]

/-- The lower case of one character, wherever it stands. -/
def lowerChar (c : Char) : Text :=
  if 'A' ≤ c ∧ c ≤ 'Z' then [Char.ofNat (c.toNat + 32)]
  else if c.toNat < 0x80 then [c]
  else mapCase lowerRows lowerSequences c

def upperChar (c : Char) : Text :=
  if 'a' ≤ c ∧ c ≤ 'z' then [Char.ofNat (c.toNat - 32)]
  else if c.toNat < 0x80 then [c]
  else mapCase upperRows upperSequences c

/-- Whether the nearest character that counts for words is a letter with a case. -/
def meetsCased (t : Text) : Bool :=
  match t.dropWhile fun c => inRanges caseIgnorableRanges c.toNat with
  | [] => false
  | c :: _ => inRanges casedRanges c.toNat

/-- The lower case of a text that follows other text, given in reverse. -/
def lowerAfter : Text → Text → Text
  | _, [] => []
  | before, c :: rest =>
    let image :=
      if c = 'Σ' then
        if meetsCased before && !meetsCased rest then ['ς'] else ['σ']
      else lowerChar c
    image ++ lowerAfter (c :: before) rest

def lower (t : Text) : Text := lowerAfter [] t

def upper (t : Text) : Text := t.flatMap upperChar

end DocComment.Text
