/- Blanks around a text and the words in it. Trimming takes away the blanks at both ends and nothing else
(`exists_trim`); so blanks that are put around a text do not change its trimmed form (`trim_surround`), and
a text that is trimmed already can be found again between any blanks (`trimLeft_between`,
`trimRight_between`). Whether it is trimmed can be seen at its two ends (`trim_eq_self_iff`).

A text that is not blank begins with a word: the characters after the leading blanks up to the next blank
or the end. `Begins` says that a text is cut so, and `firstWord` finds this cut (`Begins.firstWord_eq`). -/
import DocComment.Text.Blank
import DocComment.Text.Character
import Mathlib.Data.List.DropRight

namespace DocComment

set_option autoImplicit false

theorem bounds_of_digit {c : Char} (digit : isAsciiDigit c = true) : 48 ≤ c.toNat ∧ c.toNat ≤ 57 := by
  simpa [isAsciiDigit, Char.le_def, UInt32.le_iff_toNat_le] using digit

theorem isBlank_eq_false_of_digit {c : Char} (digit : isAsciiDigit c = true) : isBlank c = false := by
  have bounds := bounds_of_digit digit
  simp only [isBlank, Text.inRanges, List.any_cons, List.any_nil, Bool.or_false, Bool.or_eq_false_iff,
    Bool.and_eq_false_iff, decide_eq_false_iff_not]
  omega

namespace Text

/-- What holds of the code points in some ranges holds of every character that lies in them. -/
theorem forall_inRanges {ranges : List (Nat × Nat)} {P : Char → Prop}
    (each : ∀ range ∈ ranges, ∀ n ∈ List.range' range.1 (range.2 + 1 - range.1), P (Char.ofNat n))
    {c : Char} (inside : inRanges ranges c.toNat = true) : P c := by
  obtain ⟨range, listed, within⟩ := List.any_eq_true.1 inside
  have bounds : range.1 ≤ c.toNat ∧ c.toNat ≤ range.2 := by simpa using within
  have here := each range listed c.toNat (by rw [List.mem_range'_1]; omega)
  rwa [Char.ofNat_toNat] at here

/-! ## Blank ends -/

/-- The definition of the program agrees with that of the library. -/
theorem dropRightWhile_eq (drop : Char → Bool) (t : Text) : dropRightWhile drop t = t.rdropWhile drop := by
  induction t with
  | nil => rfl
  | cons c rest ih =>
      have last : (c :: rest).rdropWhile drop =
          if rest.rdropWhile drop = [] then [c].rdropWhile drop else c :: rest.rdropWhile drop := by
        simp only [List.rdropWhile, List.reverse_cons, List.dropWhile_append, List.isEmpty_iff,
          List.reverse_eq_nil_iff]
        split <;> simp
      rw [dropRightWhile, ih, last]
      cases kept : rest.rdropWhile drop with
      | nil => simp [List.rdropWhile_singleton]
      | cons d more => simp

theorem trimLeft_eq_nil_iff {t : Text} : trimLeft t = [] ↔ t.all isBlank = true := by
  rw [trimLeft, List.dropWhile_eq_nil_iff, List.all_eq_true]

theorem trimRight_eq_nil_iff {t : Text} : trimRight t = [] ↔ t.all isBlank = true := by
  rw [trimRight, dropRightWhile_eq, List.rdropWhile_eq_nil_iff, List.all_eq_true]

theorem trimLeft_append_left {lead : Text} (blank : lead.all isBlank = true) (t : Text) :
    trimLeft (lead ++ t) = trimLeft t :=
  List.dropWhile_append_of_pos (List.all_eq_true.1 blank)

/-- Blanks at the end are out of reach from the left as long as something stands before them. -/
theorem trimLeft_append {t : Text} (filled : t.all isBlank = false) (more : Text) :
    trimLeft (t ++ more) = trimLeft t ++ more := by
  have stays : trimLeft t ≠ [] := by
    intro gone
    rw [trimLeft_eq_nil_iff, filled] at gone
    cases gone
  unfold trimLeft at stays ⊢
  rw [List.dropWhile_append, if_neg (by simpa using stays)]

theorem trimRight_append_right {trail : Text} (blank : trail.all isBlank = true) (t : Text) :
    trimRight (t ++ trail) = trimRight t := by
  have blankBack : ∀ c ∈ trail.reverse, isBlank c = true := by simpa using blank
  simp only [trimRight, dropRightWhile_eq, List.rdropWhile, List.reverse_append]
  rw [List.dropWhile_append_of_pos blankBack]

theorem trimRight_append {t : Text} (filled : t.all isBlank = false) (before : Text) :
    trimRight (before ++ t) = before ++ trimRight t := by
  have stays : t.reverse.dropWhile isBlank ≠ [] := by
    intro gone
    have blank : t.all isBlank = true := by simpa using gone
    rw [filled] at blank
    cases blank
  simp only [trimRight, dropRightWhile_eq, List.rdropWhile, List.reverse_append]
  rw [List.dropWhile_append, if_neg (by simpa using stays), List.reverse_append, List.reverse_reverse]

/-- What follows a text that ends with no blank is trimmed by itself. -/
theorem trimRight_append_of_solid {s : Text} (solid : trimRight s = s) (t : Text) :
    trimRight (s ++ t) = s ++ trimRight t := by
  by_cases blank : t.all isBlank = true
  · rw [trimRight_append_right blank, trimRight_eq_nil_iff.2 blank, solid, List.append_nil]
  · exact trimRight_append (by simpa using blank) s

/-! ## Trimming -/

theorem trim_eq_nil_iff {t : Text} : trim t = [] ↔ t.all isBlank = true := by
  rw [trim, trimRight_eq_nil_iff]
  constructor
  · intro blank
    have split : t = t.takeWhile isBlank ++ trimLeft t := List.takeWhile_append_dropWhile.symm
    rw [split, List.all_append, blank, List.all_takeWhile]
    rfl
  · intro blank
    rw [trimLeft_eq_nil_iff.2 blank]
    rfl

theorem trim_append_left {lead : Text} (blank : lead.all isBlank = true) (t : Text) :
    trim (lead ++ t) = trim t := by
  rw [trim, trimLeft_append_left blank, trim]

theorem trim_append_right {trail : Text} (blank : trail.all isBlank = true) (t : Text) :
    trim (t ++ trail) = trim t := by
  cases filled : t.all isBlank with
  | true =>
      have both : (t ++ trail).all isBlank = true := by rw [List.all_append, filled, blank]; rfl
      rw [trim_eq_nil_iff.2 both, trim_eq_nil_iff.2 filled]
  | false => rw [trim, trimLeft_append filled, trimRight_append_right blank, trim]

theorem trim_trimLeft (t : Text) : trim (trimLeft t) = trim t := by
  have blank : (t.takeWhile isBlank).all isBlank = true := List.all_takeWhile
  have same := trim_append_left blank (trimLeft t)
  rw [trimLeft, List.takeWhile_append_dropWhile] at same
  exact same.symm

/-- **Blanks around a text do not change its trimmed form.** -/
theorem trim_surround {lead trail : Text} (blankLead : lead.all isBlank = true)
    (blankTrail : trail.all isBlank = true) (t : Text) : trim (lead ++ (t ++ trail)) = trim t := by
  rw [trim_append_left blankLead, trim_append_right blankTrail]

/-- **Trimming takes nothing away but blanks at the ends.** -/
theorem exists_trim (t : Text) : ∃ lead trail : Text,
    lead.all isBlank = true ∧ trail.all isBlank = true ∧ t = lead ++ (trim t ++ trail) := by
  refine ⟨t.takeWhile isBlank, (trimLeft t).rtakeWhile isBlank, List.all_takeWhile, ?_, ?_⟩
  · exact List.all_eq_true.2 fun c member => List.mem_rtakeWhile_imp member
  · rw [trim, trimRight, dropRightWhile_eq, List.rdropWhile_append_rtakeWhile, trimLeft,
      List.takeWhile_append_dropWhile]

/-- A trimmed text has no blank at either end. -/
theorem ends_of_trim {t : Text} (trimmed : trim t = t) : trimLeft t = t ∧ trimRight t = t := by
  have left : trimLeft t = t := by
    apply (List.dropWhile_suffix isBlank).eq_of_length
    apply Nat.le_antisymm (List.dropWhile_suffix isBlank).length_le
    calc t.length = (trim t).length := by rw [trimmed]
      _ ≤ (trimLeft t).length := by
        rw [trim, trimRight, dropRightWhile_eq]
        exact (List.rdropWhile_prefix isBlank (trimLeft t)).length_le
  refine ⟨left, ?_⟩
  rw [trim, left] at trimmed
  exact trimmed

theorem trim_trim (t : Text) : trim (trim t) = trim t := by
  obtain ⟨lead, trail, blankLead, blankTrail, split⟩ := exists_trim t
  have same := trim_surround blankLead blankTrail (trim t)
  rw [← split] at same
  exact same.symm

/-- Only the first character decides: a text that does not begin with a blank is left alone. -/
theorem trimLeft_eq_self_iff {t : Text} : trimLeft t = t ↔ t.head?.any isBlank = false := by
  cases t with
  | nil => exact ⟨fun _ => rfl, fun _ => rfl⟩
  | cons c rest =>
      rw [trimLeft, List.dropWhile_cons, List.head?_cons, Option.any_some]
      by_cases blank : isBlank c = true
      · rw [if_pos blank, blank]
        constructor
        · intro same
          have shorter := (List.dropWhile_suffix isBlank (l := rest)).length_le
          rw [same, List.length_cons] at shorter
          omega
        · intro impossible
          cases impossible
      · rw [if_neg blank]
        exact ⟨fun _ => by simpa using blank, fun _ => rfl⟩

theorem trimRight_eq_self_iff {t : Text} : trimRight t = t ↔ t.getLast?.any isBlank = false := by
  rw [trimRight, dropRightWhile_eq, List.rdropWhile, List.reverse_eq_iff, ← trimLeft, trimLeft_eq_self_iff,
    List.head?_reverse]

/-- **A text is trimmed exactly if no blank stands at its ends.** -/
theorem trim_eq_self_iff {t : Text} :
    trim t = t ↔ t.head?.any isBlank = false ∧ t.getLast?.any isBlank = false := by
  rw [← trimLeft_eq_self_iff, ← trimRight_eq_self_iff]
  constructor
  · exact ends_of_trim
  · rintro ⟨left, right⟩
    rw [trim, left, right]

section Between

variable {core : Text} (trimmed : trim core = core) (filled : core.all isBlank = false)

include trimmed filled

theorem trimLeft_between {lead : Text} (blank : lead.all isBlank = true) (trail : Text) :
    trimLeft (lead ++ (core ++ trail)) = core ++ trail := by
  rw [trimLeft_append_left blank, trimLeft_append filled, (ends_of_trim trimmed).1]

theorem trimRight_between {trail : Text} (blank : trail.all isBlank = true) (lead : Text) :
    trimRight (lead ++ (core ++ trail)) = lead ++ core := by
  rw [← List.append_assoc, trimRight_append_right blank, trimRight_append filled,
    (ends_of_trim trimmed).2]

end Between

/-! ## The first word -/

/-- How a text begins: a word after blanks, and a rest that does not go on with the word. -/
structure Begins (t lead word rest : Text) : Prop where
  eq : t = lead ++ (word ++ rest)
  lead_blank : lead.all isBlank = true
  word_ne_nil : word ≠ []
  word_solid : word.any isBlank = false
  ends : rest.head?.all isBlank = true

/-- The word ends at the first blank, which cannot be in the word and must begin the rest. -/
theorem Begins.firstWord_eq {t lead word rest : Text} (begins : Begins t lead word rest) :
    firstWord t = (word, trimLeft rest) := by
  have solid : ∀ c ∈ word, (!isBlank c) = true := by simpa using begins.word_solid
  have start : trimLeft t = word ++ rest := by
    rw [begins.eq, trimLeft_append_left begins.lead_blank]
    cases shape : word with
    | nil => exact absurd shape begins.word_ne_nil
    | cons c more =>
        have first : isBlank c = false := by simpa using solid c (by simp [shape])
        simp [trimLeft, first]
  have stops : rest.takeWhile (!isBlank ·) = [] ∧ rest.dropWhile (!isBlank ·) = rest := by
    have ends := begins.ends
    cases rest with
    | nil => exact ⟨rfl, rfl⟩
    | cons c more =>
        have blank : isBlank c = true := by simpa using ends
        simp [blank]
  rw [firstWord, start, List.takeWhile_append_of_pos solid, List.dropWhile_append_of_pos solid, stops.1,
    stops.2, List.append_nil]

/-- A text that is not blank begins with a word. -/
theorem exists_begins {t : Text} (filled : t.all isBlank = false) :
    ∃ lead word rest, Begins t lead word rest := by
  have some : trimLeft t ≠ [] := by
    intro blank
    rw [trimLeft_eq_nil_iff, filled] at blank
    cases blank
  obtain ⟨c, more, start⟩ := List.exists_cons_of_ne_nil some
  have first : isBlank c = false := by
    have head := List.head?_dropWhile_not isBlank t
    rw [← trimLeft, start] at head
    exact head
  refine ⟨t.takeWhile isBlank, (trimLeft t).takeWhile (!isBlank ·), (trimLeft t).dropWhile (!isBlank ·),
    ?_, List.all_takeWhile, ?_, ?_, ?_⟩
  · rw [List.takeWhile_append_dropWhile, trimLeft, List.takeWhile_append_dropWhile]
  · simp [start, first]
  · rw [List.any_eq_false]
    intro d member
    simpa using List.mem_takeWhile_imp member
  · have head := List.head?_dropWhile_not (!isBlank ·) (trimLeft t)
    cases next : ((trimLeft t).dropWhile (!isBlank ·)).head? with
    | none => rfl
    | some d =>
        rw [next] at head
        simpa using head

end Text

end DocComment
