/- Comments and the markup inside them. A comment is written in one of two forms: each line after three
slashes (`lineForm`), or all lines after stars in one block (`blockForm`). Before a mark any blanks may
stand. Stripping takes both forms apart again (`strip_dressed`): it finds the marks at the beginnings of the
lines and looks at nothing behind them, so lines may hold marks of their own. The end of a comment is
trimmed, so the blanks after its last line are lost, and in a block those before its first one too.

A comment of the first form can also be given in pieces. To join their markup is to strip all the pieces
at once (`join_eq_strip`), because stripping acts on each line by itself (`lines_strip`). -/
import DocComment.Comment
import DocComment.Proofs.Blanks
import DocComment.Proofs.Lines

namespace DocComment.Comment

set_option autoImplicit false

/-! ## The two forms of a comment -/

theorem strip_congr {s t : Text} (same : Text.trim s = Text.trim t) : strip s = strip t := by
  simp only [strip, same]

/-- A comment of marked lines is stripped line by line. -/
theorem strip_marked {raw : Text} (marked : ['/', '/', '/'] <+: Text.trim raw) :
    strip raw = Text.unlines ((Text.lines (Text.trim raw)).map undressLine) := by
  rw [strip, if_pos (Text.startsWith_iff.2 marked)]

/-- So is a block, after it has lost its opening and its closing; then it is trimmed. -/
theorem strip_opened {raw body : Text} (opened : Text.trim raw = ['/', '*', '*'] ++ body) :
    strip raw = Text.trim (Text.unlines ((Text.lines (dropClosing body)).map undressBlockLine)) := by
  have unmarked : ¬ Text.startsWith (Text.trim raw) ['/', '/', '/'] = true := by
    rw [Text.startsWith_iff, opened]
    rintro ⟨rest, split⟩
    cases split
  simp only [strip, if_neg unmarked, Text.after?_eq_some_iff.2 opened]

/-- Any other text is trimmed. -/
theorem strip_plain {raw : Text} (unmarked : ¬ ['/', '/', '/'] <+: Text.trim raw)
    (unopened : ¬ ['/', '*', '*'] <+: Text.trim raw) : strip raw = Text.trim raw := by
  have nothing : Text.after? ['/', '*', '*'] (Text.trim raw) = none := by
    cases found : Text.after? ['/', '*', '*'] (Text.trim raw) with
    | none => rfl
    | some body => exact absurd ⟨body, (Text.after?_eq_some_iff.1 found).symm⟩ unopened
  rw [← Text.startsWith_iff] at unmarked
  simp only [strip, if_neg unmarked, nothing]

theorem dropClosing_append (body : Text) : dropClosing (body ++ ['*', '/']) = body := by
  rw [dropClosing, Text.before?_eq_some_iff.2 rfl, Option.getD_some]

/-! ## Lines -/

theorem dropIndent_suffix (t : Text) : dropIndent t <:+ t := by
  cases t with
  | nil => exact List.suffix_refl []
  | cons c rest =>
      rw [dropIndent]
      split
      · exact List.suffix_cons c rest
      · exact List.suffix_refl (c :: rest)

/-- What is left of a line is its end. -/
theorem undressLine_suffix (line : Text) : undressLine line <:+ line := by
  unfold undressLine
  cases found : Text.after? ['/', '/', '/'] (Text.trimLeft line) with
  | none => exact List.suffix_refl line
  | some rest =>
      have behind : rest <:+ Text.trimLeft line := ⟨_, (Text.after?_eq_some_iff.1 found).symm⟩
      exact (dropIndent_suffix rest).trans (behind.trans (List.dropWhile_suffix isBlank))

theorem undressBlockLine_suffix (line : Text) : undressBlockLine line <:+ line := by
  unfold undressBlockLine
  have start : Text.trimLeft line <:+ line := List.dropWhile_suffix isBlank
  split
  · rename_i rest split
    rw [split] at start
    exact (dropIndent_suffix rest).trans ((List.suffix_cons '*' rest).trans start)
  · exact start

/-- The mark of a line is found behind any blanks. -/
theorem undressLine_marked {indent : Text} (blank : indent.all isBlank = true) (t : Text) :
    undressLine (indent ++ (['/', '/', '/'] ++ t)) = dropIndent t := by
  have start : Text.trimLeft (indent ++ (['/', '/', '/'] ++ t)) = ['/', '/', '/'] ++ t := by
    rw [Text.trimLeft_append_left blank]
    rfl
  rw [undressLine, start, Text.after?_eq_some_iff.2 rfl]

theorem undressBlockLine_marked {indent : Text} (blank : indent.all isBlank = true) (t : Text) :
    undressBlockLine (indent ++ ('*' :: t)) = dropIndent t := by
  have start : Text.trimLeft (indent ++ ('*' :: t)) = '*' :: t := by
    rw [Text.trimLeft_append_left blank]
    rfl
  rw [undressBlockLine, start]
  rfl

theorem undressBlockLine_blank {line : Text} (blank : line.all isBlank = true) :
    undressBlockLine line = [] := by
  rw [undressBlockLine, Text.trimLeft_eq_nil_iff.2 blank]

/-- The markup of marked lines has the same lines without their marks. -/
theorem lines_strip {raw : Text} (marked : ['/', '/', '/'] <+: Text.trim raw) :
    Text.lines (strip raw) = (Text.lines (Text.trim raw)).map undressLine := by
  rw [strip_marked marked]
  apply Text.lines_unlines
  · rw [Ne, List.map_eq_nil_iff]
    exact Text.lines_ne_nil _
  · intro line member
    obtain ⟨old, listed, rfl⟩ := List.mem_map.1 member
    intro newline
    exact Text.not_mem_of_mem_lines listed ((undressLine_suffix old).subset newline)

/-! ## Writing a comment -/

/-- Blanks that stay on one line. -/
structure Indent where
  text : Text
  blank : text.all isBlank = true
  single : '\n' ∉ text

/-- A line of markup, and the blanks that stand before its mark in the comment. -/
structure Row where
  indent : Indent
  line : Text
  single : '\n' ∉ line

namespace Row

def written (mark : Text) (row : Row) : Text := row.indent.text ++ (mark ++ row.line)

def flush (row : Row) : Row := { row with indent := ⟨[], rfl, List.not_mem_nil⟩ }

theorem newline_not_mem_written {mark : Text} (free : '\n' ∉ mark) (row : Row) :
    '\n' ∉ row.written mark := by
  simp only [written, List.mem_append, not_or]
  exact ⟨row.indent.single, free, row.single⟩

end Row

/-- A comment with three slashes and a space before each line. -/
def lineForm (rows : List Row) : Text := Text.unlines (rows.map (Row.written ['/', '/', '/', ' ']))

/-- A comment in one block, with a star and a space before each line. Its opening and its closing have
lines of their own. -/
def blockForm (rows : List Row) (closing : Indent) : Text :=
  Text.unlines (['/', '*', '*'] :: (rows.map (Row.written ['*', ' ']) ++ [closing.text ++ ['*', '/']]))

/-! ## Marked lines -/

theorem undressLine_written (row : Row) : undressLine (row.written ['/', '/', '/', ' ']) = row.line :=
  undressLine_marked row.indent.blank (' ' :: row.line)

theorem trimRight_written (row : Row) :
    Text.trimRight (row.written ['/', '/', '/', ' ']) =
      row.indent.text ++ (['/', '/', '/'] ++ Text.trimRight (' ' :: row.line)) := by
  have solid : Text.trimRight (row.indent.text ++ ['/', '/', '/']) = row.indent.text ++ ['/', '/', '/'] := by
    rw [Text.trimRight_eq_self_iff, List.getLast?_append]
    rfl
  have split : row.written ['/', '/', '/', ' '] =
      (row.indent.text ++ ['/', '/', '/']) ++ (' ' :: row.line) := by
    simp [Row.written]
  rw [split, Text.trimRight_append_of_solid solid, List.append_assoc]

/-- The last line of a comment. If it is blank, its mark loses the space that belongs to it. -/
theorem undressLine_trimRight_written (row : Row) :
    undressLine (Text.trimRight (row.written ['/', '/', '/', ' '])) = Text.trimRight row.line := by
  rw [trimRight_written, undressLine_marked row.indent.blank, ← List.singleton_append]
  by_cases blank : row.line.all isBlank = true
  · have all : ([' '] ++ row.line).all isBlank = true := by
      rw [List.all_append, blank]
      rfl
    rw [Text.trimRight_eq_nil_iff.2 all, Text.trimRight_eq_nil_iff.2 blank]
    rfl
  · rw [Text.trimRight_append (by simpa using blank)]
    rfl

theorem lineForm_flush (first : Row) (more : List Row) :
    lineForm (first :: more) = first.indent.text ++ lineForm (first.flush :: more) := by
  unfold lineForm
  by_cases alone : more = []
  · rw [alone]
    rfl
  · rw [List.map_cons, List.map_cons, Text.unlines_cons (by simpa using alone),
      Text.unlines_cons (by simpa using alone)]
    simp [Row.written, Row.flush]

/-- Trimming leaves a mark at the beginning alone. -/
theorem trim_of_marked {t : Text} (marked : ['/', '/', '/'] <+: t) :
    Text.trim t = Text.trimRight t ∧ ['/', '/', '/'] <+: Text.trim t := by
  obtain ⟨rest, rfl⟩ := marked
  have start : Text.trim (['/', '/', '/'] ++ rest) = Text.trimRight (['/', '/', '/'] ++ rest) := rfl
  refine ⟨start, Text.trimRight rest, ?_⟩
  rw [start, Text.trimRight_append_of_solid rfl]

/-- Blanks at the end of a comment belong to its last line, so the lines above keep theirs. -/
theorem lines_trimRight_lineForm (above : List Row) (last : Row) :
    Text.lines (Text.trimRight (lineForm (above ++ [last]))) =
      above.map (Row.written ['/', '/', '/', ' ']) ++
        [Text.trimRight (last.written ['/', '/', '/', ' '])] := by
  have filled : (last.written ['/', '/', '/', ' ']).all isBlank = false := by
    simp [Row.written, show isBlank '/' = false by decide]
  rw [lineForm, List.map_append, List.map_singleton, Text.unlines_concat, Text.trimRight_append filled,
    ← Text.unlines_concat]
  apply Text.lines_unlines (by simp)
  intro line member
  have free : ∀ row : Row, '\n' ∉ row.written ['/', '/', '/', ' '] :=
    Row.newline_not_mem_written (by decide)
  rcases List.mem_append.1 member with early | late
  · obtain ⟨row, -, rfl⟩ := List.mem_map.1 early
    exact free row
  · rw [List.mem_singleton.1 late]
    intro newline
    exact free last ((Text.dropRightWhile_sublist _ _).subset newline)

/-- The comment has slashes at its head, so each line loses its slashes and one blank. -/
theorem strip_lineForm_of_marked (above : List Row) (last : Row)
    (marked : ['/', '/', '/'] <+: lineForm (above ++ [last])) :
    strip (lineForm (above ++ [last])) =
      Text.unlines (above.map Row.line ++ [Text.trimRight last.line]) := by
  obtain ⟨start, stillMarked⟩ := trim_of_marked marked
  have undressed : (above.map (Row.written ['/', '/', '/', ' '])).map undressLine = above.map Row.line := by
    rw [List.map_map]
    apply List.map_congr_left
    intro row _
    exact undressLine_written row
  rw [strip_marked stillMarked, start, lines_trimRight_lineForm, List.map_append, undressed,
    List.map_singleton, undressLine_trimRight_written]

/-- Blanks before the first mark are trimmed away, so the comment may as well begin with the mark. -/
theorem strip_lineForm (above : List Row) (last : Row) :
    strip (lineForm (above ++ [last])) =
      Text.unlines (above.map Row.line ++ [Text.trimRight last.line]) := by
  cases above with
  | nil =>
      rw [List.nil_append, lineForm_flush, strip_congr (Text.trim_append_left last.indent.blank _)]
      exact strip_lineForm_of_marked [] last.flush ⟨_, rfl⟩
  | cons first above =>
      rw [List.cons_append, lineForm_flush, strip_congr (Text.trim_append_left first.indent.blank _)]
      apply strip_lineForm_of_marked (first.flush :: above)
      rw [List.cons_append, lineForm, List.map_cons, Text.unlines_cons (by simp)]
      exact ⟨_, rfl⟩

/-! ## Blocks -/

theorem blockForm_eq (rows : List Row) (closing : Indent) :
    blockForm rows closing = ['/', '*', '*'] ++
      ('\n' :: Text.unlines (rows.map (Row.written ['*', ' ']) ++ [closing.text]) ++ ['*', '/']) := by
  rw [blockForm, Text.unlines_cons (by simp), Text.unlines_concat, Text.unlines_concat]
  simp

theorem trim_blockForm (rows : List Row) (closing : Indent) :
    Text.trim (blockForm rows closing) = blockForm rows closing := by
  rw [Text.trim_eq_self_iff, blockForm_eq]
  constructor
  · rfl
  · rw [← List.append_assoc, List.getLast?_append]
    rfl

/-- Newlines around the lines of a text do not count once it is trimmed. -/
theorem trim_unlines_spaced (pieces : List Text) :
    Text.trim (Text.unlines ([] :: (pieces ++ [[]]))) = Text.trim (Text.unlines pieces) := by
  have newline : ['\n'].all isBlank = true := by decide
  rw [Text.unlines_cons (by simp), List.nil_append, ← List.singleton_append,
    Text.trim_append_left newline, Text.unlines_concat, List.append_nil]
  rcases List.eq_nil_or_concat pieces with rfl | ⟨above, last, rfl⟩
  · rfl
  · rw [List.concat_eq_append, List.flatMap_append, List.flatMap_singleton, ← List.append_assoc,
      ← Text.unlines_concat, Text.trim_append_right newline]

/-- The opening and the closing stand on lines of their own, so each of them leaves an empty line that is
trimmed. -/
theorem strip_blockForm (rows : List Row) (closing : Indent) :
    strip (blockForm rows closing) = Text.trim (Text.unlines (rows.map Row.line)) := by
  have opened := (trim_blockForm rows closing).trans (blockForm_eq rows closing)
  have single : ∀ line ∈ rows.map (Row.written ['*', ' ']) ++ [closing.text], '\n' ∉ line := by
    intro line member
    rcases List.mem_append.1 member with inner | final
    · obtain ⟨row, -, rfl⟩ := List.mem_map.1 inner
      exact Row.newline_not_mem_written (by decide) row
    · rw [List.mem_singleton.1 final]
      exact closing.single
  have undressed : (rows.map (Row.written ['*', ' '])).map undressBlockLine = rows.map Row.line := by
    rw [List.map_map]
    apply List.map_congr_left
    intro row _
    exact undressBlockLine_marked row.indent.blank (' ' :: row.line)
  rw [strip_opened opened, dropClosing_append, Text.lines_newline, Text.lines_unlines (by simp) single,
    List.map_cons, List.map_append, undressed, List.map_singleton, undressBlockLine_blank closing.blank]
  exact trim_unlines_spaced (rows.map Row.line)

/-- **Stripping a comment gives back the lines it was written from,** whatever they hold. Of marked lines the
last one is trimmed at its end, of a block all lines together at both ends. -/
theorem strip_dressed :
    (∀ (above : List Row) (last : Row), strip (lineForm (above ++ [last])) =
      Text.unlines (above.map Row.line ++ [Text.trimRight last.line])) ∧
    ∀ (rows : List Row) (closing : Indent), strip (blockForm rows closing) =
      Text.trim (Text.unlines (rows.map Row.line)) :=
  ⟨strip_lineForm, strip_blockForm⟩

/-- Lines that hold marks themselves, and blank lines at the end. -/
example : strip "\t/// /// a\n  /// */\n///   ".toList = "/// a\n*/\n".toList ∧
    strip "/**\n* */\n * * b\n *   \n*/".toList = "*/\n* b".toList := by
  decide +kernel

/-! ## Pieces -/

theorem prefix_unlines (first : Text) (more : List Text) : first <+: Text.unlines (first :: more) := by
  by_cases alone : more = []
  · rw [alone]
    exact List.prefix_refl first
  · rw [Text.unlines_cons alone]
    exact List.prefix_append first _

/-- Texts that are trimmed and not empty stay trimmed when they are joined. -/
theorem trim_unlines {pieces : List Text} (trimmed : ∀ piece ∈ pieces, Text.trim piece = piece)
    (filled : ∀ piece ∈ pieces, piece ≠ []) :
    Text.trim (Text.unlines pieces) = Text.unlines pieces := by
  rw [Text.trim_eq_self_iff]
  constructor
  · cases pieces with
    | nil => rfl
    | cons first more =>
        have listed := List.mem_cons_self (a := first) (l := more)
        obtain ⟨rest, split⟩ := prefix_unlines first more
        rw [← split, List.head?_append_of_ne_nil _ (filled first listed)]
        exact (Text.trim_eq_self_iff.1 (trimmed first listed)).1
  · rcases List.eq_nil_or_concat pieces with rfl | ⟨above, last, rfl⟩
    · rfl
    · rw [List.concat_eq_append] at trimmed filled ⊢
      have listed : last ∈ above ++ [last] := List.mem_append_right above (List.mem_singleton_self last)
      rw [Text.unlines_concat, List.getLast?_append_of_ne_nil _ (filled last listed)]
      exact (Text.trim_eq_self_iff.1 (trimmed last listed)).2

/-- **To join the markup of marked pieces is to strip the whole comment.** Pieces may hold several lines, and
blank ones are left out. -/
theorem join_eq_strip {pieces : List Text}
    (marked : ∀ piece ∈ pieces, Text.trim piece ≠ [] → ['/', '/', '/'] <+: Text.trim piece) :
    join pieces =
      strip (Text.unlines ((pieces.filter fun piece => !(Text.trim piece).isEmpty).map Text.trim)) := by
  have each : ∀ piece ∈ pieces.filter fun piece => !(Text.trim piece).isEmpty,
      Text.trim piece ≠ [] ∧ ['/', '/', '/'] <+: Text.trim piece := by
    intro piece member
    obtain ⟨listed, filled⟩ := List.mem_filter.1 member
    have filled : Text.trim piece ≠ [] := by simpa using filled
    exact ⟨filled, marked piece listed filled⟩
  unfold join
  generalize pieces.filter (fun piece => !(Text.trim piece).isEmpty) = kept at each ⊢
  cases kept with
  | nil => rfl
  | cons first more =>
      have whole : Text.trim (Text.unlines ((first :: more).map Text.trim)) =
          Text.unlines ((first :: more).map Text.trim) := by
        apply trim_unlines <;> intro piece member <;> obtain ⟨raw, listed, rfl⟩ := List.mem_map.1 member
        · exact Text.trim_trim raw
        · exact (each raw listed).1
      have begins : ['/', '/', '/'] <+: Text.trim (Text.unlines ((first :: more).map Text.trim)) := by
        rw [whole]
        exact (each first (List.mem_cons_self ..)).2.trans (prefix_unlines _ _)
      have lineByLine : Text.lines (Text.unlines ((first :: more).map strip)) =
          Text.lines (strip (Text.unlines ((first :: more).map Text.trim))) := by
        rw [lines_strip begins, whole, Text.lines_unlines_flatMap (by simp),
          Text.lines_unlines_flatMap (by simp), List.flatMap_map, List.flatMap_map, List.map_flatMap]
        apply List.flatMap_congr
        intro piece listed
        exact lines_strip (each piece listed).2
      rw [← Text.unlines_lines (Text.unlines _), lineByLine, Text.unlines_lines]

/-- Pieces of one line and of several, a blank one, a bare mark, and a line without a mark. -/
def spreadPieces : List Text :=
  ["  /// a\n///  b \n".toList, " \t".toList, "///".toList, "\n/// c\n  d\n\t///\te".toList]

theorem join_eq_strip_spreadPieces :
    join spreadPieces = strip "/// a\n///  b\n///\n/// c\n  d\n\t///\te".toList ∧
      join spreadPieces = "a\n b\n\nc\n  d\ne".toList := by
  have marked : ∀ piece ∈ spreadPieces,
      Text.trim piece ≠ [] → ['/', '/', '/'] <+: Text.trim piece := by decide +kernel
  have whole : Text.unlines ((spreadPieces.filter fun piece => !(Text.trim piece).isEmpty).map Text.trim) =
      "/// a\n///  b\n///\n/// c\n  d\n\t///\te".toList := by decide +kernel
  refine ⟨?_, by decide +kernel⟩
  rw [← whole]
  exact join_eq_strip marked

end DocComment.Comment
