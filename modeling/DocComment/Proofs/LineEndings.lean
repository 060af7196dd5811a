/- Line endings. A newline is written alone or after a carriage return, and a comment may mix both. `Sheds s t`
says that `t` is the text `s` with bare newlines, where `s` has no other returns. Every step of stripping
respects this relation: trimming (`Sheds.trimmed`), the search for marks at both ends (`Sheds.isPrefix_iff`,
`sheds_dropClosing`), and the cut into lines (`Sheds.toLines`).

On a single line the two texts differ by a return at the end. It counts as blank, so a blank line of a block
loses it; but it is not the space that a mark takes with it, so behind a mark it stays (`undressLine_return`,
`undressBlockLine_return`). Either way it is gone once the newlines are bare, and the two markups are the same
(`strip_bareNewlines`). -/
import DocComment.Proofs.Comments

namespace DocComment

set_option autoImplicit false

namespace Text

/-- Whether every carriage return stands right before a newline. -/
def returnsPaired : Text → Bool
  | [] => true
  | c :: rest => (c != '\r' || rest.head? == some '\n') && returnsPaired rest

/-- Every carriage return with the newline after it read as that newline. A return that stands elsewhere
stays. -/
def bareNewlines : Text → Text
  | [] => []
  | '\r' :: '\n' :: rest => '\n' :: bareNewlines rest
  | c :: rest => c :: bareNewlines rest

/-- A text whose returns all stand before newlines, and the same text without them. -/
inductive Sheds : Text → Text → Prop
  | nil : Sheds [] []
  | char {c : Char} {s t : Text} : c ≠ '\r' → Sheds s t → Sheds (c :: s) (c :: t)
  | pair {s t : Text} : Sheds s t → Sheds ('\r' :: '\n' :: s) ('\n' :: t)

namespace Sheds

/-- By recursion along the text: a return is always seen together with its newline. -/
theorem of_paired {t : Text} (paired : returnsPaired t = true) : Sheds t (bareNewlines t) := by
  fun_induction bareNewlines t with
  | case1 => exact .nil
  | case2 rest ih =>
      apply Sheds.pair
      apply ih
      simpa [returnsPaired] using paired
  | case3 c rest unpaired ih =>
      rw [returnsPaired, Bool.and_eq_true] at paired
      refine .char ?_ (ih paired.2)
      rintro rfl
      cases rest with
      | nil => cases paired.1
      | cons d more =>
          have newline : d = '\n' := by simpa using paired.1
          exact unpaired more rfl (by rw [newline])

theorem bareNewlines_eq {s t : Text} (sheds : Sheds s t) : bareNewlines s = t := by
  induction sheds with
  | nil => rfl
  | char other _ ih => simp [bareNewlines, other, ih]
  | pair _ ih => rw [bareNewlines, ih]

theorem of_free {t : Text} (free : '\r' ∉ t) : Sheds t t := by
  induction t with
  | nil => exact .nil
  | cons c t ih =>
      simp only [List.mem_cons, not_or] at free
      exact .char (Ne.symm free.1) (ih free.2)

/-! ## Parts of a text -/

theorem append {s t s' t' : Text} (first : Sheds s t) (second : Sheds s' t') :
    Sheds (s ++ s') (t ++ t') := by
  induction first with
  | nil => exact second
  | char other _ ih => exact .char other ih
  | pair _ ih => exact .pair ih

/-- Where the text without returns is cut, the other can be cut too. -/
theorem exists_append {s t t' : Text} (sheds : Sheds s (t ++ t')) :
    ∃ u u', s = u ++ u' ∧ Sheds u t ∧ Sheds u' t' := by
  induction t generalizing s with
  | nil => exact ⟨[], s, rfl, .nil, sheds⟩
  | cons c t ih =>
      rw [List.cons_append] at sheds
      cases sheds with
      | char other rest =>
          obtain ⟨u, u', rfl, first, second⟩ := ih rest
          exact ⟨c :: u, u', rfl, .char other first, second⟩
      | pair rest =>
          obtain ⟨u, u', rfl, first, second⟩ := ih rest
          exact ⟨'\r' :: '\n' :: u, u', rfl, .pair first, second⟩

/-- A mark without newlines stands at the head of both texts or of none. -/
theorem eq_append_of_right (mark : Text) {s t : Text} (free : '\n' ∉ mark) (sheds : Sheds s (mark ++ t)) :
    ∃ s', s = mark ++ s' ∧ Sheds s' t := by
  induction mark generalizing s with
  | nil => exact ⟨s, rfl, sheds⟩
  | cons c mark ih =>
      simp only [List.mem_cons, not_or] at free
      rw [List.cons_append] at sheds
      cases sheds with
      | char _ rest =>
          obtain ⟨s', rfl, tail⟩ := ih free.2 rest
          exact ⟨s', rfl, tail⟩
      | pair _ => exact absurd rfl free.1

theorem eq_cons {c : Char} {s t : Text} (other : c ≠ '\r') (sheds : Sheds (c :: s) t) :
    ∃ t', t = c :: t' ∧ Sheds s t' := by
  cases sheds with
  | char _ rest => exact ⟨_, rfl, rest⟩
  | pair _ => exact absurd rfl other

theorem eq_append_of_left {mark s t : Text} (free : '\r' ∉ mark) (sheds : Sheds (mark ++ s) t) :
    ∃ t', t = mark ++ t' ∧ Sheds s t' := by
  induction mark generalizing t with
  | nil => exact ⟨t, rfl, sheds⟩
  | cons c mark ih =>
      simp only [List.mem_cons, not_or] at free
      obtain ⟨rest, rfl, below⟩ := sheds.eq_cons (Ne.symm free.1)
      obtain ⟨t', rfl, tail⟩ := ih free.2 below
      exact ⟨t', rfl, tail⟩

/-- Both texts begin with the same marks. -/
theorem isPrefix_iff {mark s t : Text} (noNewline : '\n' ∉ mark) (noReturn : '\r' ∉ mark)
    (sheds : Sheds s t) : mark <+: s ↔ mark <+: t := by
  constructor
  · rintro ⟨rest, rfl⟩
    obtain ⟨rest', rfl, -⟩ := sheds.eq_append_of_left noReturn
    exact List.prefix_append mark rest'
  · rintro ⟨rest, rfl⟩
    obtain ⟨rest', rfl, -⟩ := sheds.eq_append_of_right mark noNewline
    exact List.prefix_append mark rest'

/-- Both texts end with the same character: a return is never the last one. -/
theorem getLast?_eq {s t : Text} (sheds : Sheds s t) : s.getLast? = t.getLast? := by
  induction sheds with
  | nil => rfl
  | char _ _ ih => rw [List.getLast?_cons, List.getLast?_cons, ih]
  | pair _ ih => rw [List.getLast?_cons_cons, List.getLast?_cons, List.getLast?_cons, ih]

theorem eq_concat {s t : Text} {c : Char} (other : c ≠ '\n') (sheds : Sheds (s ++ [c]) t) :
    ∃ t', t = t' ++ [c] ∧ Sheds s t' := by
  have last : t.getLast? = some c := by rw [← sheds.getLast?_eq, List.getLast?_concat]
  obtain ⟨t', rfl⟩ := List.getLast?_eq_some_iff.1 last
  obtain ⟨u, u', split, first, second⟩ := sheds.exists_append
  obtain ⟨rest, rfl, nothing⟩ := eq_append_of_right [c] (by simpa using Ne.symm other) second
  cases nothing
  rw [List.append_nil] at split
  rw [List.append_inj_left' split rfl]
  exact ⟨t', rfl, first⟩

/-! ## Blanks -/

theorem all_isBlank {s t : Text} (sheds : Sheds s t) : s.all isBlank = t.all isBlank := by
  induction sheds with
  | nil => rfl
  | char _ _ ih => rw [List.all_cons, List.all_cons, ih]
  | pair _ ih =>
      rw [List.all_cons, List.all_cons, List.all_cons, ih]
      rfl

theorem head?_any {s t : Text} (sheds : Sheds s t) : s.head?.any isBlank = t.head?.any isBlank := by
  cases sheds with
  | nil => rfl
  | char _ _ => rfl
  | pair _ => rfl

/-- A text is trimmed as its counterpart is. -/
theorem trimmed {s t : Text} (sheds : Sheds s t) : Sheds (trim s) (trim t) := by
  obtain ⟨lead, trail, blankLead, blankTrail, split⟩ := exists_trim t
  rw [split] at sheds
  obtain ⟨lead', rest, rfl, shedsLead, shedsRest⟩ := sheds.exists_append
  obtain ⟨core, trail', rfl, shedsCore, shedsTrail⟩ := shedsRest.exists_append
  rw [← shedsLead.all_isBlank] at blankLead
  rw [← shedsTrail.all_isBlank] at blankTrail
  have solid : trim core = core := by
    rw [trim_eq_self_iff, shedsCore.head?_any, shedsCore.getLast?_eq, ← trim_eq_self_iff]
    exact trim_trim t
  rw [trim_surround blankLead blankTrail, solid]
  exact shedsCore

end Sheds

/-! ## Lines -/

/-- Lines with a return at the end of some, and the same lines without. The last line has none. -/
inductive ShedLines : List Text → List Text → Prop
  | last {line : Text} : '\r' ∉ line → ShedLines [line] [line]
  | bare {line : Text} {ls ms : List Text} :
      '\r' ∉ line → ShedLines ls ms → ShedLines (line :: ls) (line :: ms)
  | ended {line : Text} {ls ms : List Text} :
      '\r' ∉ line → ShedLines ls ms → ShedLines ((line ++ ['\r']) :: ls) (line :: ms)

namespace ShedLines

theorem ne_nil {ls ms : List Text} (sheds : ShedLines ls ms) : ls ≠ [] ∧ ms ≠ [] := by
  cases sheds <;> exact ⟨List.cons_ne_nil _ _, List.cons_ne_nil _ _⟩

theorem modifyHead {ls ms : List Text} {c : Char} (other : c ≠ '\r') (sheds : ShedLines ls ms) :
    ShedLines (ls.modifyHead (c :: ·)) (ms.modifyHead (c :: ·)) := by
  have longer : ∀ line : Text, '\r' ∉ line → '\r' ∉ c :: line := by
    intro line free
    simp [Ne.symm other, free]
  cases sheds with
  | last free => exact .last (longer _ free)
  | bare free below => exact .bare (longer _ free) below
  | ended free below => exact .ended (longer _ free) below

/-- Lines that are changed one by one, if a return at the end of a line stays there or goes. -/
theorem map {change : Text → Text} (free : ∀ line, '\r' ∉ line → '\r' ∉ change line)
    (ends : ∀ line, change (line ++ ['\r']) = change line ++ ['\r'] ∨
      change (line ++ ['\r']) = change line)
    {ls ms : List Text} (sheds : ShedLines ls ms) : ShedLines (ls.map change) (ms.map change) := by
  induction sheds with
  | last clean => exact .last (free _ clean)
  | bare clean _ ih => exact .bare (free _ clean) ih
  | @ended line _ _ clean _ ih =>
      rw [List.map_cons, List.map_cons]
      rcases ends line with stays | goes
      · rw [stays]
        exact .ended (free _ clean) ih
      · rw [goes]
        exact .bare (free _ clean) ih

theorem toUnlines {ls ms : List Text} (sheds : ShedLines ls ms) : Sheds (unlines ls) (unlines ms) := by
  induction sheds with
  | last free => exact .of_free free
  | bare free below ih =>
      rw [unlines_cons below.ne_nil.1, unlines_cons below.ne_nil.2]
      exact (Sheds.of_free free).append (.char (by decide) ih)
  | ended free below ih =>
      rw [unlines_cons below.ne_nil.1, unlines_cons below.ne_nil.2, List.append_assoc]
      exact (Sheds.of_free free).append (.pair ih)

end ShedLines

/-- Lines are cut at the same newlines, and each keeps at most the return before its own. -/
theorem Sheds.toLines {s t : Text} (sheds : Sheds s t) : ShedLines (lines s) (lines t) := by
  induction sheds with
  | nil => exact .last List.not_mem_nil
  | @char c s t other _ ih =>
      by_cases newline : c = '\n'
      · rw [newline, lines_newline, lines_newline]
        exact .bare List.not_mem_nil ih
      · rw [lines_cons newline, lines_cons newline]
        exact ih.modifyHead other
  | pair _ ih =>
      rw [lines_cons (by decide), lines_newline, lines_newline]
      show ShedLines (([] ++ ['\r']) :: lines _) ([] :: lines _)
      exact .ended List.not_mem_nil ih

end Text

/-! ## Stripping -/

namespace Comment

theorem dropIndent_return (t : Text) : dropIndent (t ++ ['\r']) = dropIndent t ++ ['\r'] := by
  cases t with
  | nil => rfl
  | cons c rest =>
      rw [List.cons_append, dropIndent, dropIndent]
      split <;> rfl

/-- A mark has no return in it, so a return at the end is never what the mark runs into. -/
theorem after?_return {mark t : Text} (free : '\r' ∉ mark) :
    Text.after? mark (t ++ ['\r']) = (Text.after? mark t).map (· ++ ['\r']) := by
  cases found : Text.after? mark t with
  | some rest =>
      rw [Text.after?_eq_some_iff] at found
      rw [Option.map_some, Text.after?_eq_some_iff, found, List.append_assoc]
  | none =>
      cases later : Text.after? mark (t ++ ['\r']) with
      | none => rfl
      | some rest =>
          -- The mark would have to reach to the return, or to be there before it.
          rw [Text.after?_eq_some_iff] at later
          rcases List.eq_nil_or_concat rest with rfl | ⟨front, last, rfl⟩
          · have inside : '\r' ∈ mark := by
              rw [← List.append_nil mark, ← later]
              exact List.mem_append_right t (List.mem_singleton_self '\r')
            exact absurd inside free
          · rw [List.concat_eq_append, ← List.append_assoc] at later
            have split := List.append_inj_left' later rfl
            rw [Text.after?_eq_some_iff.2 split] at found
            cases found

theorem all_isBlank_return {line : Text} (blank : line.all isBlank = true) :
    (line ++ ['\r']).all isBlank = true := by
  rw [List.all_append, blank]
  rfl

/-- A return at the end of a marked line stays, also behind the bare mark. -/
theorem undressLine_return (line : Text) : undressLine (line ++ ['\r']) = undressLine line ++ ['\r'] := by
  unfold undressLine
  by_cases blank : line.all isBlank = true
  · rw [Text.trimLeft_eq_nil_iff.2 blank, Text.trimLeft_eq_nil_iff.2 (all_isBlank_return blank)]
    rfl
  · rw [Text.trimLeft_append (by simpa using blank), after?_return (by decide)]
    cases Text.after? ['/', '/', '/'] (Text.trimLeft line) with
    | none => rfl
    | some rest => exact dropIndent_return rest

/-- In a block the return goes with a blank line. -/
theorem undressBlockLine_return (line : Text) :
    undressBlockLine (line ++ ['\r']) = undressBlockLine line ++ ['\r'] ∨
      undressBlockLine (line ++ ['\r']) = undressBlockLine line := by
  by_cases blank : line.all isBlank = true
  · right
    rw [undressBlockLine_blank blank, undressBlockLine_blank (all_isBlank_return blank)]
  · left
    have filled : Text.trimLeft line ≠ [] := by rwa [Ne, Text.trimLeft_eq_nil_iff]
    obtain ⟨c, rest, start⟩ := List.exists_cons_of_ne_nil filled
    rw [undressBlockLine, undressBlockLine, Text.trimLeft_append (by simpa using blank), start]
    by_cases star : c = '*'
    · rw [star]
      exact dropIndent_return rest
    · simp [star]

/-- The closing has no return in it, so it ends one text exactly if it ends the other. -/
theorem sheds_dropClosing {s t : Text} (sheds : Text.Sheds s t) :
    Text.Sheds (dropClosing s) (dropClosing t) := by
  cases closed : Text.before? ['*', '/'] s with
  | some front =>
      have split : s = (front ++ ['*']) ++ ['/'] := by
        rw [Text.before?_eq_some_iff.1 closed, List.append_assoc]
        rfl
      rw [split] at sheds ⊢
      obtain ⟨t', rfl, shedsInner⟩ := sheds.eq_concat (by decide)
      obtain ⟨front', rfl, shedsFront⟩ := shedsInner.eq_concat (by decide)
      rw [List.append_assoc, List.append_assoc]
      show Text.Sheds (dropClosing (front ++ ['*', '/'])) (dropClosing (front' ++ ['*', '/']))
      rw [dropClosing_append, dropClosing_append]
      exact shedsFront
  | none =>
      have unclosed : Text.before? ['*', '/'] t = none := by
        cases found : Text.before? ['*', '/'] t with
        | none => rfl
        | some front =>
            -- A closing of the text without returns has a counterpart in the other.
            rw [Text.before?_eq_some_iff.1 found] at sheds
            obtain ⟨u, u', rfl, -, ending⟩ := sheds.exists_append
            obtain ⟨rest, rfl, nothing⟩ :=
              Text.Sheds.eq_append_of_right ['*', '/'] (t := []) (by decide) ending
            cases nothing
            rw [List.append_nil, Text.before?_eq_some_iff.2 rfl] at closed
            cases closed
      rw [dropClosing, dropClosing, closed, unclosed]
      exact sheds

theorem sheds_undressLine {ls ms : List Text} (sheds : Text.ShedLines ls ms) :
    Text.ShedLines (ls.map undressLine) (ms.map undressLine) :=
  sheds.map (fun line free inside => free ((undressLine_suffix line).subset inside))
    fun line => .inl (undressLine_return line)

theorem sheds_undressBlockLine {ls ms : List Text} (sheds : Text.ShedLines ls ms) :
    Text.ShedLines (ls.map undressBlockLine) (ms.map undressBlockLine) :=
  sheds.map (fun line free inside => free ((undressBlockLine_suffix line).subset inside))
    undressBlockLine_return

/-- **Stripping respects the relation,** in each form of a comment and in plain text. -/
theorem sheds_strip {s t : Text} (sheds : Text.Sheds s t) : Text.Sheds (strip s) (strip t) := by
  have working := sheds.trimmed
  have sameMark : ['/', '/', '/'] <+: Text.trim s ↔ ['/', '/', '/'] <+: Text.trim t :=
    working.isPrefix_iff (by decide) (by decide)
  have sameOpening : ['/', '*', '*'] <+: Text.trim s ↔ ['/', '*', '*'] <+: Text.trim t :=
    working.isPrefix_iff (by decide) (by decide)
  by_cases marked : ['/', '/', '/'] <+: Text.trim t
  · rw [strip_marked marked, strip_marked (sameMark.2 marked)]
    exact (sheds_undressLine working.toLines).toUnlines
  by_cases opened : ['/', '*', '*'] <+: Text.trim t
  · obtain ⟨body, split⟩ := opened
    rw [← split] at working
    obtain ⟨body', split', inside⟩ := working.eq_append_of_right ['/', '*', '*'] (by decide)
    rw [strip_opened split.symm, strip_opened split']
    exact (sheds_undressBlockLine (sheds_dropClosing inside).toLines).toUnlines.trimmed
  · rw [strip_plain marked opened, strip_plain (mt sameMark.1 marked) (mt sameOpening.1 opened)]
    exact working

/-- **Stripping does not depend on how lines end.** -/
theorem strip_bareNewlines {raw : Text} (paired : Text.returnsPaired raw = true) :
    Text.bareNewlines (strip raw) = strip (Text.bareNewlines raw) :=
  (sheds_strip (.of_paired paired)).bareNewlines_eq

/-- A comment of each form and a plain text, with both line endings, blank lines and bare marks. The second
block has no closing. -/
def mixedEndings : List Text :=
  ["\r\n /// a \r\n///\r\n \r\n\tb\n ///\tc\r\n".toList,
   "/**\r\n * a\n *\r\n  \r\n\t* \r\n b\r\n */".toList,
   "/** a\r\n* b \r\n".toList,
   " a \r\n\r\n b\n".toList]

/-- Returns stay where the comment had them, also next to bare marks and without a closing. -/
theorem strip_bareNewlines_mixedEndings :
    (∀ raw ∈ mixedEndings, Text.returnsPaired raw = true ∧
      Text.bareNewlines (strip raw) = strip (Text.bareNewlines raw)) ∧
    mixedEndings.map strip =
      ["a \r\n\r\n \r\n\tb\nc".toList, "a\n\r\n\n\r\nb".toList, "a\r\nb".toList,
       "a \r\n\r\n b".toList] := by
  have paired : mixedEndings.all Text.returnsPaired = true := by decide +kernel
  refine ⟨?_, by decide +kernel⟩
  intro raw listed
  have here := List.all_eq_true.1 paired raw listed
  exact ⟨here, strip_bareNewlines here⟩

end Comment

end DocComment
