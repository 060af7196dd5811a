/- Punycode: labels of host names in ASCII. The characters beyond ASCII are removed, and for each, in
ascending order, the distance to its place is written as a number in a variable base. -/
import DocComment.Text.Basic

namespace DocComment.Markdown.Punycode

set_option autoImplicit false

/-- The threshold of the digit at a place, under a bias. -/
def threshold (place bias : Nat) : Nat := max 1 (min 26 (36 * (place + 1) - bias))

/-- Halves a distance until it is small, counting the steps. -/
def settle : Nat → Nat → Nat → Nat × Nat
  | 0, delta, steps => (delta, steps)
  | fuel + 1, delta, steps =>
    if 455 < delta then settle fuel (delta / 35) (steps + 36) else (delta, steps)

/-- The bias for the next number, after a distance in a label of some length. -/
def adapt (delta : Nat) (first : Bool) (length : Nat) : Nat :=
  let delta := delta / (if first then 700 else 2)
  let (delta, steps) := settle (delta + 1) (delta + delta / length) 0
  steps + 36 * delta / (delta + 38)

def digit (n : Nat) : Char := Char.ofNat (if n < 26 then 97 + n else 22 + n)

def digitValue? (c : Char) : Option Nat :=
  if 'a' ≤ c ∧ c ≤ 'z' then some (c.toNat - 97)
  else if 'A' ≤ c ∧ c ≤ 'Z' then some (c.toNat - 65)
  else if '0' ≤ c ∧ c ≤ '9' then some (c.toNat - 22)
  else none

/-- A number in digits, the least significant first, of at most `fuel` digits. -/
def writeNumber : Nat → Nat → Nat → Nat → Text
  | 0, _, _, _ => []
  | fuel + 1, place, bias, n =>
    let t := threshold place bias
    if n < t then [digit n]
    else digit (t + (n - t) % (36 - t)) :: writeNumber fuel (place + 1) bias ((n - t) / (36 - t))

/-- What is known while distances are written. -/
structure Progress where
  delta : Nat
  bias : Nat
  /-- How many characters have their place. -/
  placed : Nat
  first : Bool
  written : Text

/-- Passes one character of the label while the places of a code point are written. -/
def Progress.pass (code : Nat) (p : Progress) (c : Char) : Progress :=
  if c.toNat < code then { p with delta := p.delta + 1 }
  else if c.toNat = code then
    { delta := 0
      bias := adapt p.delta p.first (p.placed + 1)
      placed := p.placed + 1
      first := false
      written := p.written ++ writeNumber (p.delta + 1) 0 p.bias p.delta }
  else p

/-- Writes the places of code points in ascending order, from a next possible one on. -/
def writePlaces (label : Text) : Nat → List Nat → Progress → Progress
  | _, [], p => p
  | next, code :: codes, p =>
    let p := { p with delta := p.delta + (code - next) * (p.placed + 1) }
    let p := label.foldl (Progress.pass code) p
    writePlaces label (code + 1) codes { p with delta := p.delta + 1 }

/-- Inserts a number into an ascending list without repetition. -/
def insertSorted (n : Nat) : List Nat → List Nat
  | [] => [n]
  | m :: ms => if n < m then n :: m :: ms else if n = m then m :: ms else m :: insertSorted n ms

def encode (label : Text) : Text :=
  let base := label.filter fun c => c.toNat < 0x80
  let codes := (label.filter fun c => 0x80 ≤ c.toNat).foldr (fun c => insertSorted c.toNat) []
  let start : Progress :=
    { delta := 0, bias := 72, placed := base.length, first := true, written := [] }
  (if base.isEmpty then [] else base ++ ['-']) ++ (writePlaces label 0x80 codes start).written

def readNumber? : Nat → Nat → Nat → Nat → Text → Option (Nat × Text)
  | _, _, _, _, [] => none
  | place, bias, weight, sum, c :: rest => do
    let d ← digitValue? c
    let t := threshold place bias
    let sum := sum + d * weight
    if d < t then some (sum, rest) else readNumber? (place + 1) bias (weight * (36 - t)) sum rest

/-- Inserts characters at the places that a text gives, at most `fuel` of them. `next` is the place
after the last insertion, `code` the code point of the last character. -/
def insertPlaces? : Nat → Nat → Nat → Nat → Bool → Text → Text → Option Text
  | _, _, _, _, _, label, [] => some label
  | 0, _, _, _, _, _, _ :: _ => none
  | fuel + 1, code, next, bias, first, label, c :: rest => do
    let (delta, rest) ← readNumber? 0 bias 1 0 (c :: rest)
    let place := next + delta
    let code := code + place / (label.length + 1)
    if 0x10FFFF < code || (0xD800 ≤ code && code ≤ 0xDFFF) then none
    else
      let place := place % (label.length + 1)
      let label := label.take place ++ [Char.ofNat code] ++ label.drop place
      insertPlaces? fuel code (place + 1) (adapt delta first label.length) false label rest

def decode? (t : Text) : Option Text :=
  if t.any fun c => 0x80 ≤ c.toNat then none
  else
    match Text.cutAtLast? '-' t with
    | some (base, places) => insertPlaces? places.length 0x80 0 72 true base places
    | none => insertPlaces? t.length 0x80 0 72 true [] t

end DocComment.Markdown.Punycode
