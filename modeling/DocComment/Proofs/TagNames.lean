/- Which names are tags. A name is a keyword if its first word, in lower case, is one; a keyword that takes
an argument takes the rest of the name without the blanks around it, and is none if nothing is left.
`classify_eq_some_iff` states this grammar for every text, with the first word cut off as `Text.Begins`
says. So only the first word, up to its case, and the trimmed rest count (`classify_congr`).

The names that pass through overlap with the keywords: results and errors are both. The keywords win, so
no such name ever passes through (`classify_accepts`). -/
import DocComment.Proofs.Blanks
import DocComment.Proofs.Contribution

namespace DocComment

set_option autoImplicit false

/-! ## Lower case -/

namespace Text

/-- A character with one form only, whatever stands around it. -/
def IsCaseless (c : Char) : Prop := c ≠ 'Σ' ∧ lowerChar c = [c]

theorem isCaseless_of_blank {c : Char} (blank : isBlank c = true) : IsCaseless c :=
  forall_inRanges (P := IsCaseless) (by unfold IsCaseless; decide +kernel) blank

/-- A caseless character is still there in lower case, at whatever place. -/
theorem mem_lowerAfter {c : Char} (caseless : IsCaseless c) (before : Text) {t : Text} (member : c ∈ t) :
    c ∈ lowerAfter before t := by
  induction t generalizing before with
  | nil => cases member
  | cons d rest ih =>
      rw [lowerAfter, List.mem_append]
      rcases List.mem_cons.1 member with rfl | later
      · left
        rw [if_neg caseless.1, caseless.2]
        exact List.mem_singleton_self c
      · exact .inr (ih _ later)

/-- Blanks stay in lower case, so a text whose lower case has none has none. -/
theorem solid_of_lower {t : Text} (solid : (lower t).any isBlank = false) : t.any isBlank = false := by
  rw [List.any_eq_false] at solid ⊢
  intro c member blank
  exact solid c (mem_lowerAfter (isCaseless_of_blank blank) [] member) blank

/-- Whether a letter of ASCII is large or small does not count for lower case, nor for what stands
around it. -/
theorem toLower_alike (c : Char) :
    lowerChar c.toLower = lowerChar c ∧ (c.toLower = 'Σ' ↔ c = 'Σ') ∧
      inRanges caseIgnorableRanges c.toLower.toNat = inRanges caseIgnorableRanges c.toNat ∧
        inRanges casedRanges c.toLower.toNat = inRanges casedRanges c.toNat ∧
          isBlank c.toLower = isBlank c := by
  by_cases large : inRanges [(65, 90)] c.toNat = true
  · revert large
    apply forall_inRanges
    decide +kernel
  · have same : c.toLower = c := by
      unfold Char.toLower
      rw [dif_neg]
      rintro ⟨low, high⟩
      apply large
      have least : 65 ≤ c.toNat := low
      have most : c.toNat ≤ 90 := high
      simp [inRanges, least, most]
    simp [same]

theorem meetsCased_toLower (t : Text) : meetsCased (t.map Char.toLower) = meetsCased t := by
  induction t with
  | nil => rfl
  | cons c rest ih =>
      obtain ⟨-, -, ignorable, cased, -⟩ := toLower_alike c
      unfold meetsCased at ih ⊢
      rw [List.map_cons, List.dropWhile_cons, List.dropWhile_cons, ignorable]
      by_cases skipped : inRanges caseIgnorableRanges c.toNat = true
      · rw [if_pos skipped, if_pos skipped]
        exact ih
      · rw [if_neg skipped, if_neg skipped]
        exact cased

theorem lowerAfter_toLower (before t : Text) :
    lowerAfter (before.map Char.toLower) (t.map Char.toLower) = lowerAfter before t := by
  induction t generalizing before with
  | nil => rfl
  | cons c rest ih =>
      obtain ⟨image, sigma, -⟩ := toLower_alike c
      have next := ih (c :: before)
      rw [List.map_cons] at next
      rw [List.map_cons, lowerAfter, lowerAfter, next, meetsCased_toLower, meetsCased_toLower, image]
      simp only [sigma]

/-- **The case of ASCII letters does not count for the lower case of a text.** -/
theorem lower_congr {s t : Text} (alike : s.map Char.toLower = t.map Char.toLower) :
    lower s = lower t := by
  have same := lowerAfter_toLower []
  rw [lower, lower, ← same s, ← same t, alike]

theorem solid_congr {s t : Text} (alike : s.map Char.toLower = t.map Char.toLower)
    (solid : s.any isBlank = false) : t.any isBlank = false := by
  have same : ∀ u : Text, (u.map Char.toLower).any isBlank = u.any isBlank := by
    intro u
    rw [List.any_map]
    congr 1
    funext c
    exact (toLower_alike c).2.2.2.2
  rw [← same, ← alike, same, solid]

end Text

/-! ## Keywords -/

namespace Keyword

theorem ofWord?_eq_some_iff {word : Text} {keyword : Keyword} :
    ofWord? word = some keyword ↔ word = keyword.word := by
  constructor
  · intro found
    have same := List.find?_some found
    exact (beq_iff_eq.1 same).symm
  · rintro rfl
    cases keyword <;> decide

/-- A text that is a keyword in lower case has no blanks and is not empty. -/
theorem solid_of_spelled {keyword : Keyword} {word : Text} (spelled : Text.lower word = keyword.word) :
    word.any isBlank = false ∧ word ≠ [] := by
  constructor
  · apply Text.solid_of_lower
    rw [spelled]
    cases keyword <;> decide
  · rintro rfl
    cases keyword <;> cases spelled

end Keyword

namespace TagName

/-- What a keyword takes for its argument, given what follows it in the name. -/
def Takes (keyword : Keyword) (rest : Text) (argument : Option Text) : Prop :=
  (keyword.takesArgument = false ∧ argument = none) ∨
    (keyword.takesArgument = true ∧ Text.trim rest ≠ [] ∧ argument = some (Text.trim rest))

/-- The grammar of tags: a first word that is a keyword in lower case, and an argument if the keyword takes
one. -/
def Spells (name : Text) (known : KnownTag) : Prop :=
  ∃ lead word rest, Text.Begins name lead word rest ∧ Text.lower word = known.keyword.word ∧
    Takes known.keyword rest known.argument

/-- Whether a name is a tag is decided by its first word in lower case; the argument is what follows the
blanks after it. -/
theorem classify_begins {name lead word rest : Text} (begins : Text.Begins name lead word rest)
    (known : KnownTag) :
    classify name = some known ↔
      Text.lower word = known.keyword.word ∧ Takes known.keyword rest known.argument := by
  obtain ⟨keyword, argument⟩ := known
  simp only [classify, begins.firstWord_eq, Text.trim_trimLeft]
  rw [← Keyword.ofWord?_eq_some_iff]
  cases Keyword.ofWord? (Text.lower word) with
  | none => simp
  | some found =>
      simp only [Option.some.injEq, Takes]
      by_cases takes : found.takesArgument = true
      · by_cases blank : Text.trim rest = []
        · rw [if_pos takes, if_pos (by simpa using blank)]
          constructor
          · intro none
            cases none
          · rintro ⟨rfl, ⟨plain, -⟩ | ⟨-, filled, -⟩⟩
            · rw [takes] at plain
              cases plain
            · exact absurd blank filled
        · rw [if_pos takes, if_neg (by simpa using blank)]
          constructor
          · intro same
            cases same
            exact ⟨rfl, .inr ⟨takes, blank, rfl⟩⟩
          · rintro ⟨rfl, ⟨plain, -⟩ | ⟨-, -, rfl⟩⟩
            · rw [takes] at plain
              cases plain
            · rfl
      · rw [if_neg takes]
        constructor
        · intro same
          cases same
          exact ⟨rfl, .inl ⟨by simpa using takes, rfl⟩⟩
        · rintro ⟨rfl, ⟨-, rfl⟩ | ⟨needed, -⟩⟩
          · rfl
          · exact absurd needed takes

/-- A name without a word is no tag. -/
theorem classify_blank {name : Text} (blank : name.all isBlank = true) : classify name = none := by
  have start : Text.trimLeft name = [] := Text.trimLeft_eq_nil_iff.2 blank
  have unknown : Keyword.ofWord? (Text.lower []) = none := by decide
  simp [classify, Text.firstWord, start, unknown]

/-- **A name is a tag exactly by the grammar.** -/
theorem classify_eq_some_iff (name : Text) (known : KnownTag) :
    classify name = some known ↔ Spells name known := by
  constructor
  · intro classified
    cases filled : name.all isBlank with
    | true =>
        rw [classify_blank filled] at classified
        cases classified
    | false =>
        obtain ⟨lead, word, rest, begins⟩ := Text.exists_begins filled
        exact ⟨lead, word, rest, begins, (classify_begins begins known).1 classified⟩
  · rintro ⟨lead, word, rest, begins, spelled⟩
    exact (classify_begins begins known).2 spelled

/-- **Only the first word, up to its case, and the trimmed rest of a name count.** -/
theorem classify_congr {name lead word rest name' lead' word' rest' : Text}
    (begins : Text.Begins name lead word rest) (begins' : Text.Begins name' lead' word' rest')
    (sameWord : Text.lower word = Text.lower word') (sameRest : Text.trim rest = Text.trim rest') :
    classify name = classify name' := by
  apply Option.ext
  intro known
  rw [classify_begins begins, classify_begins begins', sameWord]
  simp only [Takes, sameRest]

/-- Blanks around a name do not count. -/
theorem classify_surround {lead trail : Text} (blankLead : lead.all isBlank = true)
    (blankTrail : trail.all isBlank = true) (name : Text) :
    classify (lead ++ (name ++ trail)) = classify name := by
  cases filled : name.all isBlank with
  | true =>
      have blank : (lead ++ (name ++ trail)).all isBlank = true := by
        simp only [List.all_append, blankLead, filled, blankTrail, Bool.and_self]
      rw [classify_blank filled, classify_blank blank]
  | false =>
      obtain ⟨inner, word, rest, begins⟩ := Text.exists_begins filled
      have wider : Text.Begins (lead ++ (name ++ trail)) (lead ++ inner) word (rest ++ trail) := by
        refine ⟨?_, ?_, begins.word_ne_nil, begins.word_solid, ?_⟩
        · rw [begins.eq]
          simp only [List.append_assoc]
        · rw [List.all_append, blankLead, begins.lead_blank]
          rfl
        · have ends := begins.ends
          cases rest with
          | cons c more => exact ends
          | nil =>
              cases trail with
              | nil => rfl
              | cons c more => exact List.all_eq_true.1 blankTrail c (List.mem_cons_self ..)
      exact classify_congr wider begins rfl (Text.trim_append_right blankTrail rest)

/-- The case of the letters of the first word does not count. -/
theorem classify_recase {lead word word' rest : Text}
    (begins : Text.Begins (lead ++ (word ++ rest)) lead word rest)
    (alike : word.map Char.toLower = word'.map Char.toLower) :
    classify (lead ++ (word' ++ rest)) = classify (lead ++ (word ++ rest)) := by
  refine classify_congr ⟨rfl, begins.lead_blank, ?_, ?_, begins.ends⟩ begins
    (Text.lower_congr alike.symm) rfl
  · rintro rfl
    exact begins.word_ne_nil (List.map_eq_nil_iff.1 alike)
  · exact Text.solid_congr alike begins.word_solid

theorem classify_trim (name : Text) : classify (Text.trim name) = classify name := by
  obtain ⟨lead, trail, blankLead, blankTrail, split⟩ := Text.exists_trim name
  have same := classify_surround blankLead blankTrail (Text.trim name)
  rw [← split] at same
  exact same.symm

/-- A keyword without argument is a tag by itself, in any case and between any blanks. -/
theorem classify_word {name : Text} {keyword : Keyword} (plain : keyword.takesArgument = false)
    (spelled : Text.lower (Text.trim name) = keyword.word) : classify name = some { keyword } := by
  obtain ⟨solid, filled⟩ := Keyword.solid_of_spelled spelled
  rw [← classify_trim, classify_eq_some_iff]
  exact ⟨[], Text.trim name, [], ⟨by simp, rfl, filled, solid, rfl⟩, spelled, .inl ⟨plain, rfl⟩⟩

end TagName

/-! ## Names that pass through -/

theorem TagItem.known_eq {node : Node} {tag : TagItem} (read : TagItem.ofNode? node = some tag) :
    tag.known = TagName.classify tag.name := by
  unfold TagItem.ofNode? at read
  split at read
  · split at read
    · obtain ⟨line, -, rfl⟩ := Option.map_eq_some_iff.1 read
      rfl
    · cases read
  · cases read

/-- What passes through is an item with a name that is simple and no keyword. -/
theorem Contribution.mem_others {node : Node} {simple : SimpleTag}
    (member : simple ∈ (Contribution.ofNode node).others) :
    ∃ tag, TagItem.ofNode? node = some tag ∧ tag.known = none ∧ TagName.isSimple tag.name = true ∧
      simple = { name := tag.name, contents := renderAll tag.contents } := by
  unfold Contribution.ofNode at member
  split at member
  · cases member
  · cases member
  · cases read : TagItem.ofNode? node with
    | none => simp [read] at member
    | some tag =>
        cases keyword : tag.known with
        | some known =>
            simp only [read, keyword, Contribution.ofKnown] at member
            cases word : known.keyword <;> simp [word] at member
        | none =>
            by_cases passes : TagName.isSimple tag.name = true
            · simp only [read, keyword, passes, if_true, List.mem_singleton] at member
              exact ⟨tag, rfl, keyword, passes, member⟩
            · simp [read, keyword, passes] at member

/-- A name that passes through is no keyword. -/
theorem classify_of_mem_others {blocks : List Node} {h : Harvest} (harvested : harvest blocks = .ok h)
    {simple : SimpleTag} (member : simple ∈ h.table.others) : TagName.classify simple.name = none := by
  obtain ⟨-, -, table, -⟩ := harvest_eq_ok_iff.1 harvested
  rw [table] at member
  obtain ⟨node, -, added⟩ := List.mem_flatMap.1 member
  obtain ⟨tag, read, unknown, -, rfl⟩ := Contribution.mem_others added
  rw [← unknown, TagItem.known_eq read]

/-- **Classification accepts exactly the grammar of tags.** So neither blanks around a name nor the case of
the letters in its keyword count, and results and errors never pass through as simple tags. -/
theorem TagName.classify_accepts :
    (∀ name known, classify name = some known ↔ Spells name known) ∧
    (∀ lead name trail : Text, lead.all isBlank = true → trail.all isBlank = true →
      classify (lead ++ (name ++ trail)) = classify name) ∧
    (∀ lead word word' rest : Text, Text.Begins (lead ++ (word ++ rest)) lead word rest →
      word.map Char.toLower = word'.map Char.toLower →
        classify (lead ++ (word' ++ rest)) = classify (lead ++ (word ++ rest))) ∧
    ∀ blocks h, harvest blocks = .ok h → ∀ simple ∈ h.table.others,
      Text.lower (Text.trim simple.name) ≠ "returns".toList ∧
        Text.lower (Text.trim simple.name) ≠ "throws".toList := by
  refine ⟨classify_eq_some_iff, fun lead name trail blankLead blankTrail =>
    classify_surround blankLead blankTrail name, fun lead word word' rest => classify_recase, ?_⟩
  intro blocks h harvested simple member
  have unknown := classify_of_mem_others harvested member
  constructor
  · intro spelled
    have known : classify simple.name = some { keyword := .returns } := classify_word rfl spelled
    rw [unknown] at known
    cases known
  · intro spelled
    have known : classify simple.name = some { keyword := .throws } := classify_word rfl spelled
    rw [unknown] at known
    cases known

/-- Items whose names are a keyword in an odd case, a keyword with more words, and a name that passes
through. -/
def namedBlocks : List Node :=
  [bullets [lineItem "rETURNS: a" [], lineItem "Throws often: b" [], lineItem " Author : c" []]]

/-- Wide blanks around a name and the case of its letters change nothing; those inside the argument stay. -/
theorem TagName.classify_accepts_spread :
    classify "\u2003HTTPResponse\t40  4 ".toList =
      some { keyword := .httpResponse, argument := some "40  4".toList } ∧
    classify ("\n".toList ++ ("\u2003hTTPrESPONSE\t40  4 ".toList ++ "\u00A0".toList)) =
      classify "\u2003HTTPResponse\t40  4 ".toList ∧
    ∃ h, harvest namedBlocks = .ok h ∧ h.table.others = [{ name := "Author".toList, contents := [['c']] }] ∧
      Text.lower (Text.trim "Author".toList) ≠ "returns".toList := by
  obtain ⟨grammar, surround, recase, apart⟩ := classify_accepts
  have begins : Text.Begins "\u2003HTTPResponse\t40  4 ".toList "\u2003".toList "HTTPResponse".toList
      "\t40  4 ".toList :=
    ⟨by decide +kernel, by decide +kernel, by decide +kernel, by decide +kernel, by decide +kernel⟩
  have returns : ∃ h, harvest namedBlocks = .ok h ∧
      h.table.others = [{ name := "Author".toList, contents := [['c']] }] :=
    ⟨_, harvest_of_short namedBlocks (by decide +kernel), by decide +kernel⟩
  obtain ⟨h, harvested, others⟩ := returns
  refine ⟨?_, ?_, h, harvested, others, ?_⟩
  · apply (grammar _ _).2
    exact ⟨_, _, _, begins, by decide +kernel, .inr ⟨rfl, by decide +kernel, by decide +kernel⟩⟩
  · rw [surround _ _ _ (by decide +kernel) (by decide +kernel)]
    have recased : "\u2003hTTPrESPONSE\t40  4 ".toList =
        "\u2003".toList ++ ("hTTPrESPONSE".toList ++ "\t40  4 ".toList) := by decide +kernel
    have split := begins.eq
    rw [split] at begins ⊢
    rw [recased]
    exact recase _ _ _ _ begins (by decide +kernel)
  · have member : { name := "Author".toList, contents := [['c']] } ∈ h.table.others := by
      rw [others]
      exact List.mem_singleton_self _
    exact (apart _ _ harvested _ member).1

end DocComment
