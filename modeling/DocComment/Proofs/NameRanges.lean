/- Where a name stands in its line. What is written before the colon is a sequence of pieces: characters
that stand for themselves, and escapes and entities, each of which is one piece. A range delimits the name
if its columns fall between pieces and the pieces between them spell the name, with only blanks around.

The columns are found by counting the blanks around the name in the text that was read, not in the text as
it is written. So they delimit the name if the blanks at both ends are written with as many characters as
they are read as, and only then (`nameRange_delimits`). A blank written as an entity puts the range inside
the entity (`nameRange_entityLine`). -/
import DocComment.Proofs.NameLines

namespace DocComment

set_option autoImplicit false

/-- A part of a text that cannot be cut: a character, or an escape or an entity as a whole. -/
structure Piece where
  decoded : Text
  written : Text
  deriving DecidableEq, Repr

namespace Piece

def ofChar (c : Char) : Piece := ⟨[c], [c]⟩

def ofNode (node : Node) : List Piece :=
  if node.kind = .special then [⟨node.content, node.render⟩] else node.content.map ofChar

def decodedAll (pieces : List Piece) : Text := pieces.flatMap decoded

def writtenAll (pieces : List Piece) : Text := pieces.flatMap written

def isBlank (piece : Piece) : Bool := piece.decoded.all DocComment.isBlank

/-- A piece that is read as blanks, or has no blank at its ends. -/
def IsTidy (piece : Piece) : Prop :=
  piece.isBlank = true ∨ Text.trim piece.decoded = piece.decoded

def leading (pieces : List Piece) : List Piece := pieces.takeWhile isBlank

def trailing (pieces : List Piece) : List Piece := (pieces.dropWhile isBlank).rtakeWhile isBlank

def core (pieces : List Piece) : List Piece := (pieces.dropWhile isBlank).rdropWhile isBlank

/-- Pieces that are written with as many characters as they are read as. -/
def IsLevel (pieces : List Piece) : Prop :=
  (writtenAll pieces).length = (decodedAll pieces).length

instance (pieces : List Piece) : Decidable (IsLevel pieces) := inferInstanceAs (Decidable (_ = _))

/-- Offsets in what is written that fall between pieces and cut it into blanks, the name, and blanks. -/
def Delimits (pieces : List Piece) (name : Text) (first stop : Int) : Prop :=
  ∃ lead mid trail, pieces = lead ++ (mid ++ trail) ∧
    first = (writtenAll lead).length ∧ stop = (writtenAll (lead ++ mid)).length ∧
    (decodedAll lead).all DocComment.isBlank = true ∧ decodedAll mid = name ∧
    (decodedAll trail).all DocComment.isBlank = true

theorem decodedAll_append (xs ys : List Piece) :
    decodedAll (xs ++ ys) = decodedAll xs ++ decodedAll ys := List.flatMap_append

theorem writtenAll_append (xs ys : List Piece) :
    writtenAll (xs ++ ys) = writtenAll xs ++ writtenAll ys := List.flatMap_append

theorem all_isBlank_iff (pieces : List Piece) :
    (decodedAll pieces).all DocComment.isBlank = true ↔ ∀ piece ∈ pieces, piece.isBlank = true := by
  rw [decodedAll, List.all_flatMap, List.all_eq_true]
  rfl

theorem parts_eq (pieces : List Piece) :
    pieces = leading pieces ++ (core pieces ++ trailing pieces) := by
  rw [core, trailing, List.rdropWhile_append_rtakeWhile, leading, List.takeWhile_append_dropWhile]

theorem leading_blank (pieces : List Piece) :
    (decodedAll (leading pieces)).all DocComment.isBlank = true :=
  (all_isBlank_iff _).2 fun _ member => List.mem_takeWhile_imp member

theorem trailing_blank (pieces : List Piece) :
    (decodedAll (trailing pieces)).all DocComment.isBlank = true :=
  (all_isBlank_iff _).2 fun _ member => List.mem_rtakeWhile_imp member

/-! ## The name between the blanks -/

theorem IsTidy.trim_eq {piece : Piece} (tidy : piece.IsTidy) (solid : piece.isBlank = false) :
    Text.trim piece.decoded = piece.decoded := by
  rcases tidy with blank | trimmed
  · rw [solid] at blank
    cases blank
  · exact trimmed

theorem trimLeft_cons {piece : Piece} (tidy : piece.IsTidy) (solid : piece.isBlank = false)
    (more : List Piece) : Text.trimLeft (decodedAll (piece :: more)) = decodedAll (piece :: more) := by
  have ends := Text.ends_of_trim (tidy.trim_eq solid)
  rw [decodedAll, List.flatMap_cons, Text.trimLeft_append solid, ends.1]

theorem trimRight_concat {piece : Piece} (tidy : piece.IsTidy) (solid : piece.isBlank = false)
    (before : List Piece) :
    Text.trimRight (decodedAll (before ++ [piece])) = decodedAll (before ++ [piece]) := by
  have ends := Text.ends_of_trim (tidy.trim_eq solid)
  have last : decodedAll [piece] = piece.decoded := List.append_nil _
  rw [decodedAll_append, last, Text.trimRight_append solid, ends.2]

theorem mem_of_mem_core {pieces : List Piece} {piece : Piece} (member : piece ∈ core pieces) :
    piece ∈ pieces := by
  rw [parts_eq pieces]
  exact List.mem_append_right _ (List.mem_append_left _ member)

/-- What is left between the blank pieces has no blank at its ends. -/
theorem trim_core {pieces : List Piece} (tidy : ∀ piece ∈ pieces, piece.IsTidy) :
    Text.trim (decodedAll (core pieces)) = decodedAll (core pieces) := by
  by_cases bare : core pieces = []
  · rw [bare]
    rfl
  obtain ⟨first, more, fromLeft⟩ := List.exists_cons_of_ne_nil bare
  obtain ⟨before, last, fromRight⟩ := (List.eq_nil_or_concat' (core pieces)).resolve_left bare
  have firstSolid : first.isBlank = false := by
    obtain ⟨tail, whole⟩ : core pieces <+: pieces.dropWhile isBlank := List.rdropWhile_prefix _ _
    have head := List.head?_dropWhile_not isBlank pieces
    rw [← whole, fromLeft] at head
    exact head
  have lastSolid : last.isBlank = false := by
    have stops : ¬ ((core pieces).getLast bare).isBlank = true := List.rdropWhile_last_not _ _ bare
    have same : (core pieces).getLast bare = last := by simp [fromRight]
    rw [same] at stops
    simpa using stops
  have left := trimLeft_cons (tidy first (mem_of_mem_core (by simp [fromLeft]))) firstSolid more
  have right := trimRight_concat (tidy last (mem_of_mem_core (by simp [fromRight]))) lastSolid before
  rw [← fromLeft] at left
  rw [← fromRight] at right
  rw [Text.trim, left, right]

theorem decodedAll_parts (pieces : List Piece) :
    decodedAll pieces = decodedAll (leading pieces) ++
      (decodedAll (core pieces) ++ decodedAll (trailing pieces)) := by
  rw [← decodedAll_append, ← decodedAll_append, ← parts_eq]

theorem core_solid {pieces : List Piece} (filled : (decodedAll pieces).all DocComment.isBlank = false) :
    (decodedAll (core pieces)).all DocComment.isBlank = false := by
  rw [decodedAll_parts, List.all_append, List.all_append, leading_blank, trailing_blank] at filled
  simpa using filled

/-- Where the name stands in what is read: between the blank pieces at both ends. -/
structure Finds (pieces : List Piece) : Prop where
  name : Text.trim (decodedAll pieces) = decodedAll (core pieces)
  left : (decodedAll pieces).length - (Text.trimLeft (decodedAll pieces)).length =
    (decodedAll (leading pieces)).length
  right : (decodedAll pieces).length - (Text.trimRight (decodedAll pieces)).length =
    (decodedAll (trailing pieces)).length

/-- No piece is blank in part, so trimming what is read stops between pieces. -/
theorem finds {pieces : List Piece} (tidy : ∀ piece ∈ pieces, piece.IsTidy)
    (filled : (decodedAll pieces).all DocComment.isBlank = false) : Finds pieces := by
  have trimmed := trim_core tidy
  have solid := core_solid filled
  have split := decodedAll_parts pieces
  have fromLeft := Text.trimLeft_between trimmed solid (leading_blank pieces)
    (decodedAll (trailing pieces))
  have fromRight := Text.trimRight_between trimmed solid (trailing_blank pieces)
    (decodedAll (leading pieces))
  refine ⟨?_, ?_, ?_⟩
  · rw [split, Text.trim_surround (leading_blank pieces) (trailing_blank pieces), trimmed]
  · rw [split, fromLeft]
    simp only [List.length_append]
    omega
  · rw [split, fromRight]
    simp only [List.length_append]
    omega

/-! ## Cutting what is written -/

section Cut

variable {pieces : List Piece}

/-- Offsets counted in what is read delimit the name if the blank ends are level. -/
theorem delimits_of_level (left : IsLevel (leading pieces)) (right : IsLevel (trailing pieces)) :
    Delimits pieces (decodedAll (core pieces)) (decodedAll (leading pieces)).length
      ((writtenAll pieces).length - (decodedAll (trailing pieces)).length) := by
  refine ⟨leading pieces, core pieces, trailing pieces, parts_eq pieces, ?_, ?_, leading_blank pieces, rfl,
    trailing_blank pieces⟩
  · rw [left]
  · have whole := congrArg (fun ps => (writtenAll ps).length) (parts_eq pieces)
    simp only [writtenAll_append, List.length_append] at whole ⊢
    have level : (writtenAll (trailing pieces)).length = (decodedAll (trailing pieces)).length := right
    omega

/-- The first piece of a trimmed text is not blank. -/
theorem first_solid {piece : Piece} {more : List Piece} (present : piece.decoded ≠ [])
    (trimmed : Text.trimLeft (decodedAll (piece :: more)) = decodedAll (piece :: more)) :
    piece.isBlank = false := by
  cases blank : piece.isBlank with
  | false => rfl
  | true =>
      have shorter := congrArg List.length trimmed
      rw [decodedAll, List.flatMap_cons, Text.trimLeft_append_left blank, List.length_append] at shorter
      have least := (List.dropWhile_suffix DocComment.isBlank (l := more.flatMap decoded)).length_le
      have some := List.length_pos_iff.2 present
      rw [Text.trimLeft] at shorter
      omega

/-- The last piece of a trimmed text is not blank. -/
theorem last_solid {piece : Piece} {before : List Piece} (present : piece.decoded ≠ [])
    (trimmed : Text.trimRight (decodedAll (before ++ [piece])) = decodedAll (before ++ [piece])) :
    piece.isBlank = false := by
  cases blank : piece.isBlank with
  | false => rfl
  | true =>
      have last : decodedAll [piece] = piece.decoded := List.append_nil _
      have shorter := congrArg List.length trimmed
      rw [decodedAll_append, last, Text.trimRight_append_right blank, List.length_append] at shorter
      have least := (List.rdropWhile_prefix DocComment.isBlank (decodedAll before)).length_le
      have some := List.length_pos_iff.2 present
      rw [Text.trimRight, Text.dropRightWhile_eq] at shorter
      omega

/-- There is only one way to cut pieces into blanks, a trimmed text, and blanks. -/
theorem parts_unique {lead mid trail : List Piece} (present : ∀ piece ∈ mid, piece.decoded ≠ [])
    (leadBlank : (decodedAll lead).all DocComment.isBlank = true)
    (trailBlank : (decodedAll trail).all DocComment.isBlank = true)
    (trimmed : Text.trim (decodedAll mid) = decodedAll mid) (filled : decodedAll mid ≠ []) :
    leading (lead ++ (mid ++ trail)) = lead ∧ trailing (lead ++ (mid ++ trail)) = trail := by
  have ends := Text.ends_of_trim trimmed
  have some : mid ≠ [] := by
    rintro rfl
    exact filled rfl
  obtain ⟨first, more, fromLeft⟩ := List.exists_cons_of_ne_nil some
  obtain ⟨before, last, fromRight⟩ := (List.eq_nil_or_concat' mid).resolve_left some
  have firstSolid : first.isBlank = false :=
    first_solid (present first (by simp [fromLeft])) (by rw [← fromLeft]; exact ends.1)
  have lastSolid : last.isBlank = false :=
    last_solid (present last (by simp [fromRight])) (by rw [← fromRight]; exact ends.2)
  have leadAll := (all_isBlank_iff lead).1 leadBlank
  have trailAll : ∀ piece ∈ trail.reverse, piece.isBlank = true := by
    simpa using (all_isBlank_iff trail).1 trailBlank
  have dropped : (mid ++ trail).dropWhile isBlank = mid ++ trail := by
    rw [fromLeft, List.cons_append, List.dropWhile_cons, if_neg (by simp [firstSolid])]
  constructor
  · rw [leading, List.takeWhile_append_of_pos leadAll, fromLeft]
    simp [firstSolid]
  · rw [trailing, List.dropWhile_append_of_pos leadAll, dropped, List.rtakeWhile, fromRight]
    simp only [List.reverse_append, List.reverse_cons, List.reverse_nil, List.nil_append]
    rw [List.takeWhile_append_of_pos trailAll]
    simp [lastSolid]

/-- Offsets counted in what is read delimit the name only if the blank ends are level. -/
theorem level_of_delimits (tidy : ∀ piece ∈ pieces, piece.IsTidy)
    (filled : (decodedAll pieces).all DocComment.isBlank = false)
    (present : ∀ piece ∈ pieces, piece.decoded ≠ [])
    (delimits : Delimits pieces (decodedAll (core pieces)) (decodedAll (leading pieces)).length
      ((writtenAll pieces).length - (decodedAll (trailing pieces)).length)) :
    IsLevel (leading pieces) ∧ IsLevel (trailing pieces) := by
  obtain ⟨lead, mid, trail, split, first, stop, leadBlank, name, trailBlank⟩ := delimits
  have trimmed : Text.trim (decodedAll mid) = decodedAll mid := by
    rw [name]
    exact trim_core tidy
  have solid : decodedAll mid ≠ [] := by
    intro bare
    have none := core_solid filled
    rw [← name, bare] at none
    cases none
  obtain ⟨left, right⟩ := parts_unique (fun piece member => present piece (by simp [split, member]))
    leadBlank trailBlank trimmed solid
  rw [← split] at left right
  have whole := congrArg (fun ps => (writtenAll ps).length) split
  simp only [writtenAll_append, List.length_append] at whole stop
  rw [left] at first ⊢
  rw [right] at stop ⊢
  unfold IsLevel
  omega

end Cut

end Piece

/-! ## The range of a name -/

namespace NameLine

def Colon.pieces {inlines : List Node} (colon : Colon inlines) : List Piece :=
  colon.before.flatMap Piece.ofNode ++ colon.head.map Piece.ofChar

theorem decodedAll_map (t : Text) : Piece.decodedAll (t.map Piece.ofChar) = t := by
  induction t with
  | nil => rfl
  | cons c rest ih => exact congrArg (c :: ·) ih

theorem writtenAll_map (t : Text) : Piece.writtenAll (t.map Piece.ofChar) = t := by
  induction t with
  | nil => rfl
  | cons c rest ih => exact congrArg (c :: ·) ih

/-- The pieces of an inline before the colon are read as its content and written as it is rendered. -/
theorem pieces_ofNode {node : Node} (leads : Leads node) :
    Piece.decodedAll (Piece.ofNode node) = node.content ∧
      Piece.writtenAll (Piece.ofNode node) = node.render := by
  rcases leads with special | ⟨text, -⟩
  · rw [Piece.ofNode, if_pos special]
    exact ⟨List.append_nil _, List.append_nil _⟩
  · rw [Piece.ofNode, if_neg (by simp [text]), decodedAll_map, writtenAll_map, Node.render_text text]
    exact ⟨rfl, rfl⟩

/-- Pieces are read and written as the inlines that they are made of. -/
theorem pieces_flatMap {before : List Node} (leads : ∀ node ∈ before, Leads node) :
    Piece.decodedAll (before.flatMap Piece.ofNode) = before.flatMap Node.content ∧
      Piece.writtenAll (before.flatMap Piece.ofNode) = renderInlines before := by
  rw [renderInlines_eq]
  induction before with
  | nil => exact ⟨rfl, rfl⟩
  | cons node before ih =>
      obtain ⟨first, others⟩ := List.forall_mem_cons.1 leads
      obtain ⟨decoded, written⟩ := pieces_ofNode first
      obtain ⟨decodedRest, writtenRest⟩ := ih others
      constructor
      · rw [List.flatMap_cons, Piece.decodedAll_append, decoded, decodedRest, List.flatMap_cons]
      · rw [List.flatMap_cons, Piece.writtenAll_append, written, writtenRest, List.flatMap_cons]

theorem Colon.decodedAll_pieces {inlines : List Node} (colon : Colon inlines) :
    Piece.decodedAll colon.pieces = colon.decoded := by
  rw [Colon.pieces, Piece.decodedAll_append, (pieces_flatMap colon.leads).1, decodedAll_map,
    Colon.decoded]

theorem Colon.writtenAll_pieces {inlines : List Node} (colon : Colon inlines) :
    Piece.writtenAll colon.pieces = colon.written := by
  rw [Colon.pieces, Piece.writtenAll_append, (pieces_flatMap colon.leads).2, writtenAll_map,
    Colon.written]

/-- What holds of every character that stands for itself and of every escape and entity before the colon
holds of every piece. -/
theorem Colon.forall_pieces {inlines : List Node} (colon : Colon inlines) {P : Piece → Prop}
    (each : ∀ c, P (Piece.ofChar c))
    (special : ∀ node ∈ colon.before, node.kind = .special → P ⟨node.content, node.render⟩) :
    ∀ piece ∈ colon.pieces, P piece := by
  intro piece member
  rcases List.mem_append.1 member with before | head
  · obtain ⟨node, inBefore, ofNode⟩ := List.mem_flatMap.1 before
    by_cases isSpecial : node.kind = .special
    · rw [Piece.ofNode, if_pos isSpecial, List.mem_singleton] at ofNode
      rw [ofNode]
      exact special node inBefore isSpecial
    · rw [Piece.ofNode, if_neg isSpecial] at ofNode
      obtain ⟨c, -, rfl⟩ := List.mem_map.1 ofNode
      exact each c
  · obtain ⟨c, -, rfl⟩ := List.mem_map.1 head
    exact each c

theorem isTidy_ofChar (c : Char) : (Piece.ofChar c).IsTidy := by
  cases blank : isBlank c with
  | true => exact .inl (by simp [Piece.isBlank, Piece.ofChar, blank])
  | false =>
      right
      simp [Piece.ofChar, Text.trim, Text.trimLeft, Text.trimRight, Text.dropRightWhile, blank]

/-- Whether every escape and entity before the colon is read as blanks, or as a text without blanks at its
ends. -/
def Colon.IsTidy {inlines : List Node} (colon : Colon inlines) : Prop :=
  ∀ node ∈ colon.before, node.kind = .special →
    node.content.all isBlank = true ∨ Text.trim node.content = node.content

theorem Colon.IsTidy.pieces {inlines : List Node} {colon : Colon inlines} (tidy : colon.IsTidy) :
    ∀ piece ∈ colon.pieces, piece.IsTidy := colon.forall_pieces isTidy_ofChar tidy

/-- The range of a name counts the blanks before and after it in what is read. -/
theorem Colon.line_some {inlines : List Node} {colon : Colon inlines} (tidy : colon.IsTidy)
    (filled : colon.decoded.all isBlank = false) (range : Range) :
    (colon.line (some range)).name = Piece.decodedAll (Piece.core colon.pieces) ∧
      (colon.line (some range)).nameRange = some (nameRangeIn range
        (Piece.decodedAll (Piece.leading colon.pieces)).length
        ((Piece.writtenAll colon.pieces).length -
          (Piece.decodedAll (Piece.trailing colon.pieces)).length)) := by
  rw [← colon.decodedAll_pieces] at filled
  obtain ⟨name, left, right⟩ := Piece.finds tidy.pieces filled
  rw [colon.decodedAll_pieces] at name left right
  refine ⟨name, ?_⟩
  rw [colon.writtenAll_pieces, ← left, ← right]
  rfl

/-- **The range of a name delimits the name as it is written** if the blanks around it are written with as
many characters as they are read as; and only then, unless an escape or an entity is read as nothing. -/
theorem nameRange_delimits {paragraph : Node} {range : Range} (placed : paragraph.range = some range)
    (colon : Colon paragraph.children) (tidy : colon.IsTidy) {line : NameLine}
    (read : ofParagraph? paragraph = some line) :
    ∃ place : Range, line.nameRange = some place ∧
      place.start.line = range.start.line ∧ place.stop.line = range.start.line ∧
      (Piece.IsLevel (Piece.leading colon.pieces) ∧ Piece.IsLevel (Piece.trailing colon.pieces) →
        Piece.Delimits colon.pieces line.name (place.start.column - range.start.column)
          (place.stop.column - range.start.column)) ∧
      ((∀ node ∈ colon.before, node.kind = .special → node.content ≠ []) →
        Piece.Delimits colon.pieces line.name (place.start.column - range.start.column)
          (place.stop.column - range.start.column) →
        Piece.IsLevel (Piece.leading colon.pieces) ∧ Piece.IsLevel (Piece.trailing colon.pieces)) := by
  rw [ofParagraph?_colon colon, placed] at read
  by_cases blank : colon.decoded.all isBlank = true
  · rw [if_pos blank] at read
    cases read
  rw [if_neg blank] at read
  cases read
  have filled : colon.decoded.all isBlank = false := by simpa using blank
  obtain ⟨name, place⟩ := Colon.line_some tidy filled range
  have shift (k : Int) : range.start.column + k - range.start.column = k := by omega
  refine ⟨_, place, rfl, rfl, ?_, ?_⟩
  · rintro ⟨left, right⟩
    simp only [name, nameRangeIn, shift]
    exact Piece.delimits_of_level left right
  · intro present delimits
    simp only [name, nameRangeIn, shift] at delimits
    rw [← colon.decodedAll_pieces] at filled
    exact Piece.level_of_delimits tidy.pieces filled
      (colon.forall_pieces (fun c => List.cons_ne_nil c []) present) delimits

/-- A line with an escape in its name and a blank before the colon. -/
def escapedLine : Node :=
  Node.paragraph
    [Node.plain "Parameter x".toList, { kind := .special, content := ['_'], markup := ['\\', '_'] },
     Node.plain "y : d".toList] (some { start := ⟨1, 3⟩, stop := ⟨1, 21⟩ })

def escapedColon : Colon escapedLine.children where
  before := escapedLine.children.take 2
  holder := Node.plain "y : d".toList
  rest := []
  head := "y ".toList
  after := " d".toList
  eq := rfl
  leads := by decide +kernel
  isText := rfl
  content := rfl
  free := by decide

/-- An escape counts with both of its characters, and the blank before the colon is left out. -/
theorem nameRange_delimits_escapedLine :
    ∃ line, ofParagraph? escapedLine = some line ∧ line.name = "Parameter x_y".toList ∧
      line.nameRange = some { start := ⟨1, 3⟩, stop := ⟨1, 17⟩ } ∧
      Piece.Delimits escapedColon.pieces line.name 0 14 := by
  have tidy : escapedColon.IsTidy := by
    unfold Colon.IsTidy
    decide +kernel
  have read : ofParagraph? escapedLine =
      some (escapedColon.line (some { start := ⟨1, 3⟩, stop := ⟨1, 21⟩ })) := by
    rw [ofParagraph?_colon escapedColon, if_neg (by decide +kernel)]
    rfl
  obtain ⟨place, found, -, -, delimits, -⟩ := nameRange_delimits rfl escapedColon tidy read
  have columns : (escapedColon.line (some { start := ⟨1, 3⟩, stop := ⟨1, 21⟩ })).nameRange =
      some { start := ⟨1, 3⟩, stop := ⟨1, 17⟩ } := by decide +kernel
  rw [columns] at found
  cases found
  exact ⟨_, read, by decide +kernel, columns, delimits ⟨by decide +kernel, by decide +kernel⟩⟩

/-- A line whose name follows a blank that is written as an entity. -/
def entityLine : Node :=
  Node.paragraph
    [{ kind := .special, content := ['\u00A0'], markup := "&nbsp;".toList },
     Node.plain "Returns: x".toList] (some { start := ⟨1, 3⟩, stop := ⟨1, 19⟩ })

def entityColon : Colon entityLine.children where
  before := entityLine.children.take 1
  holder := Node.plain "Returns: x".toList
  rest := []
  head := "Returns".toList
  after := " x".toList
  eq := rfl
  leads := by decide +kernel
  isText := rfl
  content := rfl
  free := by decide

/-- Not every range delimits its name: here it begins one column after the line does, inside the entity. -/
theorem nameRange_entityLine :
    entityColon.IsTidy ∧ ∃ line, ofParagraph? entityLine = some line ∧ line.name = "Returns".toList ∧
      line.nameRange = some { start := ⟨1, 4⟩, stop := ⟨1, 16⟩ } ∧
      ¬ Piece.Delimits entityColon.pieces line.name (4 - 3) (16 - 3) := by
  have tidy : entityColon.IsTidy := by
    unfold Colon.IsTidy
    decide +kernel
  have filled : (Piece.decodedAll entityColon.pieces).all isBlank = false := by decide +kernel
  have read : ofParagraph? entityLine =
      some (entityColon.line (some { start := ⟨1, 3⟩, stop := ⟨1, 19⟩ })) := by
    rw [ofParagraph?_colon entityColon, if_neg (by decide +kernel)]
    rfl
  refine ⟨tidy, _, read, by decide +kernel, by decide +kernel, fun delimits => ?_⟩
  have level := Piece.level_of_delimits tidy.pieces filled (by decide +kernel) delimits
  exact absurd level.1 (by decide +kernel)

end NameLine

end DocComment
