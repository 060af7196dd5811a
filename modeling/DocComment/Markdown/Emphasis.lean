/- Emphasis. Runs of stars and low lines are first read as single marks that may open or close; then
each closing mark is paired with the nearest mark that may open, and two adjacent pairs make strong
emphasis. Marks that have no partner stay plain text. -/
import DocComment.Markup.Element
import DocComment.Text.Character

namespace DocComment.Markdown

set_option autoImplicit false

/-- White space next to a run of marks. -/
def isFlankSpace (c : Char) : Bool :=
  Text.inRanges [(0x09, 0x0D), (0x20, 0x20), (0xA0, 0xA0), (0x1680, 0x1680), (0x2000, 0x200A),
    (0x202F, 0x202F), (0x205F, 0x205F), (0x3000, 0x3000)] c.toNat

structure Mark where
  sign : Char
  /-- How many marks its run has. -/
  length : Nat
  canOpen : Bool
  canClose : Bool
  deriving DecidableEq, Repr

/-- The mark of a run between two characters. A low line inside a word neither opens nor closes. -/
def Mark.ofRun (sign : Char) (length : Nat) (before after : Char) : Mark :=
  let splitsWords := sign == '*'
  let leftFlanking :=
    !(isFlankSpace after || (isPunctuation after && !(isFlankSpace before || isPunctuation before)))
  let rightFlanking :=
    !(isFlankSpace before || (isPunctuation before && !(isFlankSpace after || isPunctuation after)))
  { sign, length
    canOpen := leftFlanking && (splitsWords || !rightFlanking || isPunctuation before)
    canClose := rightFlanking && (splitsWords || !leftFlanking || isPunctuation after) }

/-- A piece of a line of inlines: an element, or a mark that may become one. -/
inductive Piece where
  | element (e : Element)
  | mark (m : Mark)
  deriving Repr

namespace Emphasis

/-- A mark with its place among the pieces, and the mark that closes it. -/
structure Delimiter where
  mark : Mark
  place : Nat
  closer : Option Nat := none
  deriving Repr

/-- A mark that never pairs. -/
def Delimiter.absent : Delimiter := { mark := ⟨' ', 0, false, false⟩, place := 0 }

def delimiters : Nat → List Piece → List Delimiter
  | _, [] => []
  | place, .mark mark :: pieces => { mark, place } :: delimiters (place + 1) pieces
  | place, .element _ :: pieces => delimiters (place + 1) pieces

/-- The marks while they are being paired. -/
structure Pairing where
  delimiters : Array Delimiter
  /-- For each mark that was looked at, how many marks before it need not be looked at. -/
  jumps : Array Nat := #[]
  /-- The first mark of the run that is being looked at. -/
  head : Nat := 0
  /-- The place of the mark that was looked at last, unless it was paired. -/
  last : Option Nat := none
  /-- For each kind of closing mark, the index up to which no partner was found. -/
  bottoms : List ((Char × Nat) × Int) := []

namespace Pairing

def get (p : Pairing) (i : Nat) : Delimiter := p.delimiters.getD i .absent

/-- How many marks before an index need not be looked at. -/
def jump (p : Pairing) (i : Nat) : Nat := p.jumps.getD i 0

/-- Whether two marks may not be paired, although one can open and the other close: one of them could
do both, and the lengths of their runs add up to a multiple of three without being such multiples. -/
def isOdd (opener closer : Mark) : Bool :=
  (opener.canClose || closer.canOpen) && (opener.length + closer.length) % 3 == 0 &&
    (opener.length % 3 != 0 || closer.length % 3 != 0)

def join (p : Pairing) (opener closer : Nat) : Pairing :=
  let skipped :=
    if 0 < opener && !(p.get (opener - 1)).mark.canOpen then p.jump (opener - 1) + 1 else 0
  let o := p.get opener
  let c := p.get closer
  { p with
    delimiters :=
      (p.delimiters.setIfInBounds closer { c with mark := { c.mark with canOpen := false } }).setIfInBounds
        opener { o with mark := { o.mark with canClose := false }, closer := some closer }
    jumps :=
      (p.jumps.setIfInBounds closer (closer - opener + skipped)).setIfInBounds opener skipped
    last := none }

/-- The index of the mark that a closing mark is paired with, among `count` candidates from an index
downwards and above a bottom. -/
def find? (p : Pairing) (closer : Mark) (bottom : Int) : Nat → Int → Option Nat
  | 0, _ => none
  | count + 1, i =>
    if i ≤ bottom then none
    else
      let o := p.get i.toNat
      if o.mark.sign == closer.sign && o.mark.canOpen && o.closer.isNone &&
          !isOdd o.mark closer then
        some i.toNat
      else find? p closer bottom count (i - (p.jump i.toNat + 1))

def key (m : Mark) : Char × Nat := (m.sign, (if m.canOpen then 3 else 0) + m.length % 3)

/-- Looks at the mark with an index: if it can close, it is paired with the nearest mark that can open
it. -/
def look (p : Pairing) (i : Nat) : Pairing :=
  let c := p.get i
  let sameRun := (p.get p.head).mark.sign == c.mark.sign && p.last.map (· + 1) == some c.place
  let p := { p with
    jumps := p.jumps.push 0
    head := if sameRun then p.head else i
    last := some c.place }
  if !c.mark.canClose then p
  else
    let bottom := (p.bottoms.lookup (key c.mark)).getD (-1)
    let first : Int := (p.head : Int) - p.jump p.head - 1
    match p.find? c.mark bottom (i + 1) first with
    | some opener => p.join opener i
    | none => if first = -1 then p else { p with bottoms := (key c.mark, first) :: p.bottoms }

def ofDelimiters (delimiters : List Delimiter) : Pairing :=
  (List.range delimiters.length).foldl look { delimiters := delimiters.toArray }

end Pairing

inductive Role where
  /-- It stays in the text. -/
  | plain
  /-- It is the outer one of two marks for strong emphasis. -/
  | outer
  | opening (strong : Bool)
  | closing (strong : Bool)
  deriving DecidableEq, Repr

/-- The roles of the marks, by their place, from the last of `count` marks to the first. -/
def roles (p : Pairing) : Nat → List (Nat × Role)
  | 0 => []
  | i + 1 =>
    let d := p.get i
    match d.closer with
    | none => roles p i
    | some closer =>
      let before := p.get (i - 1)
      let strong := 0 < i && before.closer == some (closer + 1) && before.mark.sign == d.mark.sign &&
        before.place + 1 == d.place && (p.get (closer + 1)).place == (p.get closer).place + 1
      let pair := [(d.place, Role.opening strong), ((p.get closer).place, Role.closing strong)]
      if strong then
        pair ++ [(before.place, Role.outer), ((p.get (closer + 1)).place, Role.outer)] ++
          (match i with
            | 0 => []
            | i + 1 => roles p i)
      else pair ++ roles p i

/-- Adds an element after others; plain text joins plain text before it. -/
def append (elements : List Element) (e : Element) : List Element :=
  match elements with
  | [] => [e]
  | [last] =>
    if last.kind = .text && e.kind = .text then [{ last with content := last.content ++ e.content }]
    else [last, e]
  | first :: next :: rest => first :: append (next :: rest) e

/-- An emphasised element that is not yet closed, with the elements before it. -/
structure Open where
  strong : Bool
  markup : Text
  before : List Element

def plain (t : Text) : Element := { kind := .text, content := t }

/-- Nests the pieces from a place on, inside elements that are open. -/
def nest (role : Nat → Role) : Nat → List Open → List Element → List Piece → List Element
  | _, opens, elements, [] => opens.foldl (fun inner o => o.before ++ inner) elements
  | place, opens, elements, .element e :: pieces =>
    nest role (place + 1) opens (append elements e) pieces
  | place, opens, elements, .mark m :: pieces =>
    match role place with
    | .plain => nest role (place + 1) opens (append elements (plain [m.sign])) pieces
    | .outer => nest role (place + 1) opens (append elements (plain [])) pieces
    | .opening strong =>
      let markup := if strong then [m.sign, m.sign] else [m.sign]
      nest role (place + 1) (⟨strong, markup, elements⟩ :: opens) [] pieces
    | .closing _ =>
      match opens with
      | [] => nest role (place + 1) [] elements pieces
      | o :: opens =>
        let e : Element :=
          { kind := if o.strong then .strong else .emphasis
            tag := if o.strong then "strong".toList else "em".toList
            markup := o.markup, children := elements }
        nest role (place + 1) opens (append o.before e) pieces

/-- The elements that pieces make up. -/
def resolve (pieces : List Piece) : List Element :=
  let found := delimiters 0 pieces
  let p := Pairing.ofDelimiters found
  let assigned := roles p found.length
  nest (fun place => (assigned.lookup place).getD .plain) 0 [] [] pieces

end Emphasis

end DocComment.Markdown
