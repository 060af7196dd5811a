/- Reading inlines. A text of plain characters, escapes, references, line breaks, emphasis, code and links is
rendered as it was read, if each of these is written in the way that it is rendered (`Part`). Both ways through
such a text take it part by part: the one that looks for the end of a link text (`finds_part`, `finds_label`)
and the one that makes pieces (`reads_part`, `reads_link`, `pieces_canonical`). What the first one remembers lies
behind the second one (`Fresh`), so it is never asked for. Such a text is therefore settled
(`Text.isSettled_of_isCanonical`).

Emphasis in low lines, blanks around line breaks, references to definitions, images and HTML are left out:
some are rendered differently, and none is needed for what is written in stars, backticks and brackets. -/
import DocComment.Proofs.Copies
import DocComment.Proofs.InlineParts

namespace DocComment

set_option autoImplicit false

namespace Markdown

/-! ## Pieces -/

/-- Pieces that are written as a text, where whatever can open is a star. -/
structure Writes (pieces : List Piece) (t : Text) : Prop where
  text : pieces.flatMap Piece.text = t
  stars : ∀ m, .mark m ∈ pieces → m.canOpen = true → m.sign = '*'

namespace Writes

theorem nil : Writes [] [] := ⟨rfl, by simp⟩

theorem element {e : Element} {t : Text} (text : e.text = t) : Writes [.element e] t :=
  ⟨by simp [Piece.text, text], by simp⟩

theorem marks (count : Nat) {m : Mark} (stars : m.canOpen = true → m.sign = '*') :
    Writes (List.replicate count (.mark m)) (List.replicate count m.sign) := by
  refine ⟨by simp [List.flatMap_replicate, Piece.text], fun other member => ?_⟩
  cases List.eq_of_mem_replicate member
  exact stars

theorem append {front rest : List Piece} {t u : Text} (first : Writes front t) (second : Writes rest u) :
    Writes (front ++ rest) (t ++ u) := by
  refine ⟨by rw [List.flatMap_append, first.text, second.text], fun m member => ?_⟩
  rcases List.mem_append.1 member with inside | inside
  · exact first.stars m inside
  · exact second.stars m inside

theorem pending (t : Text) : Writes (Inline.flush t []) t := by
  cases t with
  | nil => exact nil
  | cons c t => exact element (Element.text_of_kind rfl)

theorem resolve {pieces : List Piece} {t : Text} (writes : Writes pieces t) :
    (Emphasis.resolve pieces).flatMap Element.text = t :=
  (Emphasis.text_resolve writes.stars).trans writes.text

end Writes

namespace Inline

theorem flush_append (pending : Text) (pieces : List Piece) : flush pending pieces = flush pending [] ++ pieces := by
  cases pending <;> rfl

/-! ## Parts of a text -/

/-- A part at the head of a text that is rendered as it is written, and the rest of the text. What follows beyond
the text and the character before it are given. -/
inductive Part (beyond : Text) (before : Char) : Text → Text → Prop
  /-- Characters that begin nothing. -/
  | run {front rest : Text} (filled : front ≠ []) (plain : front.any endsText = false)
      (stops : rest.head?.any (!endsText ·) = false)
      (unpadded : front.getLast? = some ' ' → rest.head? ≠ some '\n') : Part beyond before front rest
  /-- A character that could begin something, and does not. -/
  | char {c : Char} {rest : Text} (ends : endsText c = true) (begins : c ∉ "\n\\`*_[<&".toList)
      (image : c = '!' → rest.head? ≠ some '[') (bracket : beyond ≠ [] → c ≠ ']') :
      Part beyond before [c] rest
  | lineBreak {rest : Text} (unindented : rest.head?.any isIndent = false) : Part beyond before ['\n'] rest
  | escape {c : Char} {rest : Text} (inside : c ≠ '\n') : Part beyond before ['\\', c] rest
  | reference {name rest content : Text} (named : name ≠ [])
      (read : Entity.read? ('&' :: (name ++ (rest ++ beyond))) = some (content, rest ++ beyond)) :
      Part beyond before ('&' :: name) rest
  | ampersand {rest : Text} (read : Entity.read? ('&' :: (rest ++ beyond)) = none) :
      Part beyond before ['&'] rest
  /-- Marks of emphasis. Low lines may not open it. -/
  | marks {sign : Char} {count : Nat} {rest : Text} (sort : sign = '*' ∨ sign = '_')
      (stops : rest.head? ≠ some sign)
      (stars : (Mark.ofRun sign (count + 1) before (rest.head?.getD ' ')).canOpen = true → sign = '*') :
      Part beyond before (List.replicate (count + 1) sign) rest
  | code {length : Nat} {code rest : Text} (encloses : Encloses (length + 1) code) (first : code.head? ≠ some '`')
      (kept : codeContent code = code) (stops : rest.head? ≠ some '`') :
      Part beyond before (codeText (length + 1) code) rest

/-- A link text of such parts, after a character and before what follows the link text. -/
inductive IsLabel (beyond : Text) : Char → Text → Prop
  | nil (before : Char) : IsLabel beyond before []
  | cons {before : Char} {slice rest : Text} (part : Part beyond before slice rest)
      (more : IsLabel beyond (slice.getLast?.getD before) rest) : IsLabel beyond before (slice ++ rest)

/-- A text of such parts and of links, after a character. -/
inductive IsCanonical : Char → Text → Prop
  | nil (before : Char) : IsCanonical before []
  | cons {before : Char} {slice rest : Text} (part : Part [] before slice rest)
      (more : IsCanonical (slice.getLast?.getD before) rest) : IsCanonical before (slice ++ rest)
  | link {before : Char} {label href title rest : Text} (target : IsTarget href title)
      (inside : IsLabel (']' :: '(' :: (targetText href title ++ ')' :: rest)) '[' label)
      (more : IsCanonical ')' rest) : IsCanonical before (linkText label href title ++ rest)

theorem Part.ne_nil {beyond : Text} {before : Char} {slice rest : Text} (part : Part beyond before slice rest) :
    slice ≠ [] := by
  cases part with
  | run filled => exact filled
  | _ => simp [codeText]

section Heads

variable {c : Char} {front t u : Text}

theorem any_head?_append {p : Char → Bool} (first : t.head?.any p = false) (second : u.head?.any p = false) :
    (t ++ u).head?.any p = false := by
  cases t with
  | nil => exact second
  | cons d t => exact first

theorem head?_append_ne (first : t.head? ≠ some c) (second : u.head? ≠ some c) : (t ++ u).head? ≠ some c := by
  cases t with
  | nil => exact second
  | cons d t => exact first

theorem not_mem_of_endsText (plain : ¬ endsText c = true) (special : t.all endsText = true) : c ∉ t :=
  fun member => plain (List.all_eq_true.1 special c member)

theorem takeWhile_plain (plain : front.any endsText = false) (stops : t.head?.any (!endsText ·) = false) :
    (front ++ t).takeWhile (!endsText ·) = front := by
  have none : t.takeWhile (!endsText ·) = [] := by
    cases t with
    | nil => rfl
    | cons d t =>
        have here : (!endsText d) = false := stops
        simp only [List.takeWhile_cons, here, Bool.false_eq_true, if_false]
  rw [List.takeWhile_append_of_pos, none, List.append_nil]
  intro d member
  simpa using List.any_eq_false.1 plain d member

end Heads

/-! ## The end of a link text -/

/-- What is remembered lies before a place, and the runs of backticks are not all known. -/
structure Fresh (memo : Memo) (place : Nat) : Prop where
  unknown : memo.ticksKnown = false
  ends : ∀ entry ∈ memo.ends, entry.1 < place

namespace Fresh

variable {memo memo' : Memo} {place : Nat}

theorem lookup (fresh : Fresh memo place) : memo.ends.lookup place = none := by
  rw [List.lookup_eq_none_iff]
  intro entry member
  have before := fresh.ends entry member
  exact bne_iff_ne.2 (by omega)

theorem later {place' : Nat} (fresh : Fresh memo place) (le : place ≤ place') : Fresh memo place' :=
  ⟨fresh.unknown, fun entry member => Nat.lt_of_lt_of_le (fresh.ends entry member) le⟩

theorem congr (fresh : Fresh memo place) (ends : memo'.ends = memo.ends) (unknown : memo'.ticksKnown = false) :
    Fresh memo' place :=
  ⟨unknown, by rw [ends]; exact fresh.ends⟩

/-- One more end is remembered. -/
theorem record (fresh : Fresh memo place) {length : Nat} (positive : 0 < length) :
    Fresh { memo with ends := (place, place + length) :: memo.ends } (place + length) := by
  refine ⟨fresh.unknown, fun entry member => ?_⟩
  rcases List.mem_cons.1 member with rfl | old
  · exact Nat.lt_add_of_pos_right positive
  · exact (fresh.later (Nat.le_add_right _ _)).ends entry old

end Fresh

theorem atom?_eq_none {s : Spot} {c : Char} {t beyond : Text} (holds : Holds s (c :: t) beyond)
    (other : c ∉ "\\<&".toList) : atom? s = none := by
  rw [atom?, holds.tail, List.cons_append]
  split
  next found => injection found with same; exact absurd other (by simp [same])
  next found => injection found with same; exact absurd other (by simp [same])
  next found => injection found with same; exact absurd other (by simp [same])
  next => rfl

theorem image?_eq_none {skip : Skip} {definitions : Definitions} {level : Nat} {s : Spot} {memo : Memo}
    {t beyond : Text} (holds : Holds s ('!' :: t) beyond) (other : t.head? ≠ some '[') :
    image? skip definitions level s memo = (none, memo) := by
  unfold image?
  rw [holds.visible]
  split
  next found =>
    cases found
    exact absurd rfl other
  next => rfl

section Skip

variable {definitions : Definitions} {fuel level : Nat} {s : Spot} {memo : Memo} {t beyond : Text}

/-- A skip that passes some characters, and remembers nothing beyond them. -/
def Passes (definitions : Definitions) (fuel level : Nat) (s : Spot) (memo : Memo) (length : Nat) : Prop :=
  ∃ memo', skip definitions (fuel + 1) level s memo = (s.pos + length, memo') ∧ Fresh memo' (s.pos + length)

theorem passes_break (deep : level < maxDepth) (fresh : Fresh memo s.pos) (holds : Holds s ('\n' :: t) beyond)
    (unindented : t.head?.any isIndent = false) : Passes definitions fuel level s memo 1 := by
  refine ⟨_, ?_, fresh.record Nat.one_pos⟩
  rw [skip]
  simp only [fresh.lookup, if_neg (Nat.not_le.2 deep), holds.tail, List.cons_append, breakLength_eq holds unindented]

theorem passes_ticks (deep : level < maxDepth) (fresh : Fresh memo s.pos) {length : Nat} {code : Text}
    (encloses : Encloses (length + 1) code) (first : code.head? ≠ some '`') (stops : t.head? ≠ some '`')
    (holds : Holds s (codeText (length + 1) code ++ t) beyond) :
    Passes definitions fuel level s memo (codeText (length + 1) code).length := by
  obtain ⟨memo', read, ends, unknown⟩ := ticks_code encloses first stops fresh.unknown holds
  rw [length_codeText]
  refine ⟨_, ?_, (fresh.congr ends unknown).record (by omega)⟩
  rw [skip]
  simp only [fresh.lookup, if_neg (Nat.not_le.2 deep), holds.tail, codeText, List.replicate_succ,
    List.cons_append, read, Option.map_some, Option.getD_some]

/-- A character that begins no line break, code, link or image. -/
theorem passes_other (deep : level < maxDepth) (fresh : Fresh memo s.pos) {c : Char}
    (holds : Holds s (c :: t) beyond) (other : c ∉ "\n`[".toList) (image : c = '!' → t.head? ≠ some '[')
    {length : Nat} (positive : 0 < length)
    (passed : (if endsText c then ((atom? s).map Atom.length).getD 1 else (s.run (!endsText ·)).length) = length) :
    Passes definitions fuel level s memo length := by
  refine ⟨_, ?_, fresh.record positive⟩
  rw [skip]
  simp only [fresh.lookup, if_neg (Nat.not_le.2 deep), holds.tail, List.cons_append]
  split
  next found => cases found
  next found =>
    injection found with same
    exact absurd other (by simp [same])
  next found =>
    injection found with same
    exact absurd other (by simp [same])
  next found =>
    injection found with same
    exact absurd other (by simp [same])
  next found =>
    injection found with same
    subst same
    have single : length = 1 := by
      rw [← passed, if_pos (by decide), atom?_eq_none holds (by decide)]
      rfl
    simp only [image?_eq_none holds (image rfl), single]
    rfl
  next d _ _ _ _ _ found =>
    injection found with same
    rw [← same, apply_ite Prod.fst, apply_ite Prod.snd, ite_self, passed]

theorem passes_run (deep : level < maxDepth) (fresh : Fresh memo s.pos) {front : Text}
    (holds : Holds s (front ++ t) beyond) (filled : front ≠ []) (plain : front.any endsText = false)
    (stops : t.head?.any (!endsText ·) = false) : Passes definitions fuel level s memo front.length := by
  have run : s.run (!endsText ·) = front := (holds.run _).trans (takeWhile_plain plain stops)
  obtain ⟨c, front, rfl⟩ := List.exists_cons_of_ne_nil filled
  have first : ¬ endsText c = true := List.any_eq_false.1 plain c List.mem_cons_self
  refine passes_other deep fresh holds (not_mem_of_endsText first (by decide)) ?_ (Nat.succ_pos _)
    (by rw [if_neg first, run])
  rintro rfl
  exact absurd rfl first

theorem passes_char (deep : level < maxDepth) (fresh : Fresh memo s.pos) {c : Char}
    (holds : Holds s (c :: t) beyond) (ends : endsText c = true) (other : c ∉ "\n`[".toList)
    (image : c = '!' → t.head? ≠ some '[') (atom : atom? s = none) :
    Passes definitions fuel level s memo 1 :=
  passes_other deep fresh holds other image Nat.one_pos (by rw [if_pos ends, atom]; rfl)

theorem passes_atom (deep : level < maxDepth) (fresh : Fresh memo s.pos) {c : Char} {atom : Atom}
    (holds : Holds s (c :: t) beyond) (begins : c = '\\' ∨ c = '&') (found : atom? s = some atom) {length : Nat}
    (long : atom.length = length) (positive : 0 < length) : Passes definitions fuel level s memo length := by
  have ends : endsText c = true := by rcases begins with rfl | rfl <;> rfl
  refine passes_other deep fresh holds ?_ ?_ positive (by rw [if_pos ends, found]; exact long)
  · rcases begins with rfl | rfl <;> decide
  · rintro rfl
    simp at begins

/-- The end of a link text, found from a place with enough fuel. -/
def Finds (definitions : Definitions) (fuel level : Nat) (single : Bool) (s : Spot) (memo : Memo) (stop : Nat) :
    Prop :=
  ∃ memo', Fresh memo' stop ∧ ∀ steps, stop - s.pos < steps →
    labelEnd (skip definitions (fuel + 1)) level single steps 0 s memo = (some stop, memo')

variable {single : Bool} {slice rest : Text} {stop : Nat}

/-- What is passed comes before the end. -/
theorem Passes.finds (passes : Passes definitions fuel level s memo slice.length)
    (holds : Holds s (slice ++ rest) beyond) (filled : slice ≠ [])
    (other : slice.head? ≠ some '[' ∧ slice.head? ≠ some ']') (inside : s.pos + slice.length ≤ stop)
    (later : ∀ s' memo', Holds s' rest beyond → s'.pos = s.pos + slice.length → Fresh memo' s'.pos →
      Finds definitions fuel level single s' memo' stop) : Finds definitions fuel level single s memo stop := by
  obtain ⟨memo', skipped, fresh⟩ := passes
  have place := Spot.pos_advance s slice.length
  obtain ⟨memo'', last, found⟩ := later _ memo' holds.advance place (place ▸ fresh)
  refine ⟨memo'', last, fun steps enough => ?_⟩
  obtain ⟨c, more, rfl⟩ := List.exists_cons_of_ne_nil filled
  obtain ⟨steps, rfl⟩ : ∃ n, steps = n + 1 := ⟨steps - 1, by omega⟩
  have opens : c ≠ '[' := fun same => other.1 (by rw [same]; rfl)
  have closes : c ≠ ']' := fun same => other.2 (by rw [same]; rfl)
  rw [labelEnd, holds.head]
  simp only [List.cons_append, List.head?_cons, skipped, Nat.add_sub_cancel_left, opens, closes, false_and,
    if_false]
  refine found steps ?_
  rw [place]
  simp only [List.length_cons] at inside ⊢
  omega

theorem finds_here {more : Text} (holds : Holds s (']' :: more) beyond) (fresh : Fresh memo s.pos) :
    Finds definitions fuel level single s memo s.pos := by
  refine ⟨memo, fresh, fun steps enough => ?_⟩
  obtain ⟨steps, rfl⟩ : ∃ n, steps = n + 1 := ⟨steps - 1, by omega⟩
  rw [labelEnd, holds.head]
  simp

/-- Marks are passed one by one. -/
theorem finds_marks (deep : level < maxDepth) {sign : Char} (sort : sign = '*' ∨ sign = '_') (count : Nat)
    (fresh : Fresh memo s.pos) (holds : Holds s (List.replicate count sign ++ rest) beyond)
    (inside : s.pos + count ≤ stop)
    (later : ∀ s' memo', Holds s' rest beyond → s'.pos = s.pos + count → Fresh memo' s'.pos →
      Finds definitions fuel level single s' memo' stop) : Finds definitions fuel level single s memo stop := by
  induction count generalizing s memo with
  | zero => exact later s memo holds rfl fresh
  | succ count ih =>
      have here : Holds s (sign :: (List.replicate count sign ++ rest)) beyond := by
        simpa [List.replicate_succ] using holds
      have passes : Passes definitions fuel level s memo [sign].length := by
        rcases sort with rfl | rfl
        · exact passes_char deep fresh here rfl (by decide) (by simp) (atom?_eq_none here (by decide))
        · exact passes_char deep fresh here rfl (by decide) (by simp) (atom?_eq_none here (by decide))
      have first : s.pos + [sign].length ≤ stop := by
        rw [List.length_singleton]
        omega
      refine passes.finds here (by simp) (by rcases sort with rfl | rfl <;> decide) first ?_
      intro s' memo' holds' place fresh'
      rw [List.length_singleton] at place
      refine ih fresh' holds' (by omega) fun s'' memo'' holds'' place'' => later s'' memo'' holds'' (by omega)

/-- **A part of a link text comes before its end.** -/
theorem finds_part (deep : level < maxDepth) (fresh : Fresh memo s.pos) {before : Char} {more : Text}
    (part : Part (']' :: more ++ beyond) before slice rest)
    (holds : Holds s (slice ++ (rest ++ ']' :: more)) beyond) (inside : s.pos + slice.length ≤ stop)
    (later : ∀ s' memo', Holds s' (rest ++ ']' :: more) beyond → s'.pos = s.pos + slice.length →
      Fresh memo' s'.pos → Finds definitions fuel level single s' memo' stop) :
    Finds definitions fuel level single s memo stop := by
  cases part with
  | run filled plain stops =>
      have passes : Passes definitions fuel level s memo slice.length :=
        passes_run deep fresh holds filled plain (any_head?_append stops rfl)
      refine passes.finds holds filled ?_ inside later
      obtain ⟨c, front, rfl⟩ := List.exists_cons_of_ne_nil filled
      have first : ¬ endsText c = true := List.any_eq_false.1 plain c List.mem_cons_self
      constructor
      · rintro ⟨⟩
        exact first rfl
      · rintro ⟨⟩
        exact first rfl
  | @char c _ ends begins image bracket =>
      rw [List.singleton_append] at holds
      have passes : Passes definitions fuel level s memo [c].length :=
        passes_char deep fresh holds ends (by simp_all) (fun same => head?_append_ne (image same) (by simp))
          (atom?_eq_none holds (by simp_all))
      exact passes.finds holds (by simp) ⟨by simp_all, by simpa using bracket (by simp)⟩ inside later
  | lineBreak unindented =>
      rw [List.singleton_append] at holds
      have passes : Passes definitions fuel level s memo ['\n'].length :=
        passes_break deep fresh holds (any_head?_append unindented rfl)
      exact passes.finds holds (by simp) (by decide) inside later
  | @escape c _ other =>
      obtain ⟨atom, found, length, -⟩ := atom?_escape holds other
      have passes : Passes definitions fuel level s memo ['\\', c].length :=
        passes_atom deep fresh holds (.inl rfl) found length Nat.two_pos
      exact passes.finds holds (by simp) (by simp) inside later
  | @reference name _ content named read =>
      rw [← List.append_assoc rest] at read
      obtain ⟨atom, found, length, -⟩ := atom?_reference holds named read
      have passes : Passes definitions fuel level s memo ('&' :: name).length :=
        passes_atom deep fresh holds (.inr rfl) found length (Nat.succ_pos _)
      exact passes.finds holds (by simp) (by simp) inside later
  | ampersand read =>
      rw [← List.append_assoc rest] at read
      have passes : Passes definitions fuel level s memo ['&'].length :=
        passes_char deep fresh holds rfl (by decide) (by simp) (atom?_ampersand holds read)
      exact passes.finds holds (by simp) (by decide) inside later
  | @marks sign count _ sort stops stars =>
      rw [List.length_replicate] at inside later
      exact finds_marks deep sort (count + 1) fresh holds inside later
  | @code length code _ encloses first kept stops =>
      have passes : Passes definitions fuel level s memo (codeText (length + 1) code).length :=
        passes_ticks deep fresh encloses first (head?_append_ne stops (by simp)) holds
      exact passes.finds holds (by simp [codeText]) (by simp [codeText, List.replicate_succ]) inside later

/-- **The end of a link text is found** where the link text ends. -/
theorem finds_label (deep : level < maxDepth) {before : Char} {more : Text}
    (label : IsLabel (']' :: more ++ beyond) before t)
    (holds : Holds s (t ++ ']' :: more) beyond) (fresh : Fresh memo s.pos) :
    Finds definitions fuel level single s memo (s.pos + t.length) := by
  induction label generalizing s memo with
  | nil => exact finds_here holds fresh
  | @cons before slice rest part _ ih =>
      rw [List.append_assoc] at holds
      rw [List.length_append]
      refine finds_part deep fresh part holds (by omega) fun s' memo' holds' place fresh' => ?_
      rw [← Nat.add_assoc, ← place]
      exact ih holds' fresh'

section Link

variable {label href title : Text}

/-- After the opening bracket come the link text and what closes it. -/
theorem holds_label (holds : Holds s (linkText label href title ++ rest) beyond) :
    Holds (s.advance 1) (label ++ ']' :: '(' :: (targetText href title ++ ')' :: rest)) beyond := by
  rw [linkText_append] at holds
  exact holds.advance ['[']

/-- After the closing bracket comes the target. -/
theorem holds_target (holds : Holds s (linkText label href title ++ rest) beyond) :
    Holds ((s.advance 1).advance (label.length + 1)) ('(' :: (targetText href title ++ ')' :: rest)) beyond := by
  have after : Holds (s.advance 1) ((label ++ [']']) ++ '(' :: (targetText href title ++ ')' :: rest)) beyond := by
    simpa using holds_label holds
  simpa using after.advance

/-- **A link is found** with its text and its target. -/
theorem link?_eq (deep : level < maxDepth) (fresh : Fresh memo s.pos) (target : IsTarget href title)
    (inside : IsLabel (']' :: '(' :: (targetText href title ++ ')' :: rest)) '[' label)
    (holds : Holds s (linkText label href title ++ rest) []) :
    ∃ memo', link? (skip definitions (fuel + 1)) definitions level s memo =
        (some ⟨label.length, href, title, (linkText label href title).length⟩, memo') ∧
      Fresh memo' (s.pos + (label.length + 1)) := by
  have opened := holds_label holds
  have closed := holds_target holds
  have place := Spot.pos_advance s 1
  rw [← List.append_nil (']' :: _)] at inside
  obtain ⟨memo', last, found⟩ := @finds_label definitions fuel level (s.advance 1) memo label [] true deep _ _
    inside opened (fresh.later (by omega))
  refine ⟨memo', ?_, by rwa [place, Nat.add_assoc, Nat.add_comm 1] at last⟩
  have label_eq : (s.advance 1).tail.take label.length = label := by
    rw [opened.tail, List.append_assoc, List.take_left]
  have passed : (s.advance 1).pos + label.length + 1 - (s.advance 1).pos = label.length + 1 := by omega
  have filled : (targetText href title ++ ')' :: rest).isEmpty = false := by simp
  have left : ((s.advance 1).advance (label.length + 1)).room - (')' :: rest).length =
      ('(' :: targetText href title).length := by
    rw [closed.room]
    simp only [List.length_cons, List.length_append]
    omega
  have stop : (((s.advance 1).advance (label.length + 1)).advance ('(' :: targetText href title).length).pos + 1 -
      s.pos = (linkText label href title).length := by
    simp only [Spot.pos_advance, List.length_cons, length_linkText]
    omega
  have enough : (s.advance 1).pos + label.length - (s.advance 1).pos < (s.advance 1).room + 1 := by
    rw [opened.room, List.length_append]
    omega
  simp only [link?]
  rw [found _ enough]
  simp only [Nat.add_sub_cancel_left, label_eq, passed, closed.visible, skipSpace_target target, filled,
    target_append target, left, stop, Bool.false_eq_true, if_false]

end Link

end Skip

/-! ## Reading part by part -/

section Steps

variable {inner : Inner} {definitions : Definitions} {level steps : Nat} {pending t beyond : Text} {s : Spot}
  {memo : Memo}

theorem pieces_nil (holds : Holds s [] beyond) :
    pieces inner definitions level (steps + 1) pending s memo = (flush pending [], memo) := by
  rw [pieces, holds.head]
  rfl

/-- Characters that begin nothing are read up to one that may begin something. -/
theorem pieces_run (deep : level < maxDepth) {c : Char} (holds : Holds s (c :: t) beyond)
    (plain : ¬ endsText c = true) :
    pieces inner definitions level (steps + 1) pending s memo =
      pieces inner definitions level steps (pending ++ s.run (!endsText ·))
        (s.advance (s.run (!endsText ·)).length) memo := by
  rw [pieces, holds.head]
  simp only [List.head?_cons, if_neg (Nat.not_le.2 deep)]
  split
  next => exact absurd rfl plain
  next => exact absurd rfl plain
  next => exact absurd rfl plain
  next => exact absurd rfl plain
  next =>
    have unmarked : ¬ (c = '*' ∨ c = '_') := by
      rintro (rfl | rfl)
      · exact absurd rfl plain
      · exact absurd rfl plain
    rw [if_neg unmarked, if_neg plain]

/-- A character that may begin something, and does not. -/
theorem pieces_char (deep : level < maxDepth) {c : Char} (holds : Holds s (c :: t) beyond)
    (marks : c ∉ "\n`*_[".toList) (image : c = '!' → t.head? ≠ some '[') (ends : endsText c = true)
    (atom : atom? s = none) :
    pieces inner definitions level (steps + 1) pending s memo =
      pieces inner definitions level steps (pending ++ [c]) (s.advance 1) memo := by
  rw [pieces, holds.head]
  simp only [List.head?_cons, if_neg (Nat.not_le.2 deep)]
  split
  next => exact absurd marks (by decide)
  next => exact absurd marks (by decide)
  next => exact absurd marks (by decide)
  next => rw [image?_eq_none holds (image rfl)]
  next =>
    have unmarked : ¬ (c = '*' ∨ c = '_') := by
      rintro (rfl | rfl)
      · exact absurd marks (by decide)
      · exact absurd marks (by decide)
    rw [if_neg unmarked, if_pos ends, atom]

theorem pieces_atom (deep : level < maxDepth) {c : Char} {atom : Atom} (holds : Holds s (c :: t) beyond)
    (begins : c = '\\' ∨ c = '&') (found : atom? s = some atom) :
    pieces inner definitions level (steps + 1) pending s memo =
      let rest := pieces inner definitions level steps [] (s.advance atom.length) memo
      (flush pending (.element atom.element :: rest.1), rest.2) := by
  rw [pieces, holds.head]
  rcases begins with rfl | rfl
  · simp [if_neg (Nat.not_le.2 deep), found, show endsText '\\' = true by decide]
  · simp [if_neg (Nat.not_le.2 deep), found, show endsText '&' = true by decide]

theorem pieces_break (deep : level < maxDepth) (holds : Holds s ('\n' :: t) beyond) :
    pieces inner definitions level (steps + 1) pending s memo =
      let rest := pieces inner definitions level steps [] (s.advance (breakLength s)) memo
      (flush (breakAfter pending).1 (.element (breakAfter pending).2 :: rest.1), rest.2) := by
  rw [pieces, holds.head]
  simp only [List.head?_cons, if_neg (Nat.not_le.2 deep)]
  rfl

/-- All marks of a run are alike: they know its length and what stands around it. -/
theorem pieces_marks (deep : level < maxDepth) {sign : Char} (sort : sign = '*' ∨ sign = '_')
    (holds : Holds s (sign :: t) beyond) :
    pieces inner definitions level (steps + 1) pending s memo =
      let length := (s.run (· == sign)).length
      let mark := Mark.ofRun sign length s.before ((s.advance length).head?.getD ' ')
      let rest := pieces inner definitions level steps [] (s.advance length) memo
      (flush pending (List.replicate length (.mark mark) ++ rest.1), rest.2) := by
  rw [pieces, holds.head]
  rcases sort with rfl | rfl
  · simp only [List.head?_cons, if_neg (Nat.not_le.2 deep)]
    rfl
  · simp only [List.head?_cons, if_neg (Nat.not_le.2 deep)]
    rfl

theorem pieces_code (deep : level < maxDepth) {length : Nat} {code : Text} {memo' : Memo}
    (holds : Holds s ('`' :: t) beyond) (read : ticks s memo = (length, some code, memo')) :
    pieces inner definitions level (steps + 1) pending s memo =
      let rest := pieces inner definitions level steps [] (s.advance (2 * length + code.length)) memo'
      (flush pending (.element { kind := .code, tag := "code".toList, content := codeContent code
                                 markup := List.replicate length '`' } :: rest.1), rest.2) := by
  rw [pieces, holds.head]
  simp only [List.head?_cons, if_neg (Nat.not_le.2 deep), read]
  rfl

/-- The link text is read once more, by itself, when its end and the target are known. -/
theorem pieces_link (deep : level < maxDepth) {site : Site} {children : List Element} {memo' memo'' : Memo}
    (holds : Holds s ('[' :: t) beyond)
    (found : link? (skip definitions (maxDepth + 1)) definitions level s memo = (some site, memo'))
    (read : inner.link (level + 1) ((s.advance 1).within site.label) memo' = (children, memo'')) :
    pieces inner definitions level (steps + 1) pending s memo =
      let rest := pieces inner definitions level steps [] (s.advance site.length) memo''
      (flush pending (.element { kind := .link, tag := ['a'], attrs := siteAttrs "href".toList site
                                 children } :: rest.1), rest.2) := by
  rw [pieces, holds.head]
  simp only [List.head?_cons, if_neg (Nat.not_le.2 deep), found, read]
  rfl

end Steps

/-- One step of reading: it passes a slice of the text, writes pieces, and leaves plain text that has gathered.
Together they are what had gathered before and the slice. -/
def Reads (inner : Inner) (definitions : Definitions) (level : Nat) (pending : Text) (s : Spot) (memo : Memo)
    (slice pending' : Text) (memo' : Memo) : Prop :=
  ∃ new done, Writes new done ∧ done ++ pending' = pending ++ slice ∧
    ∀ steps, pieces inner definitions level (steps + 1) pending s memo =
      let rest := pieces inner definitions level steps pending' (s.advance slice.length) memo'
      (new ++ rest.1, rest.2)

section Reads

variable {inner : Inner} {definitions : Definitions} {level : Nat} {pending slice rest beyond : Text} {s : Spot}
  {memo memo' : Memo}

theorem reads_more (more : ∀ steps, pieces inner definitions level (steps + 1) pending s memo =
      pieces inner definitions level steps (pending ++ slice) (s.advance slice.length) memo') :
    Reads inner definitions level pending s memo slice (pending ++ slice) memo' :=
  ⟨[], [], .nil, rfl, more⟩

theorem reads_push {new : List Piece} (writes : Writes new slice)
    (push : ∀ steps, pieces inner definitions level (steps + 1) pending s memo =
      let rest := pieces inner definitions level steps [] (s.advance slice.length) memo'
      (flush pending (new ++ rest.1), rest.2)) : Reads inner definitions level pending s memo slice [] memo' := by
  have written := (Writes.pending pending).append writes
  refine ⟨flush pending [] ++ new, pending ++ slice, written, List.append_nil _, fun steps => ?_⟩
  rw [push]
  dsimp only
  rw [flush_append pending (_ ++ _), List.append_assoc]

/-- **A part that is no link is read as it is written.** -/
theorem reads_part (deep : level < maxDepth) (part : Part beyond s.before slice rest)
    (holds : Holds s (slice ++ rest) beyond)
    (unpadded : (slice ++ rest).head? = some '\n' → pending.getLast? ≠ some ' ')
    (unknown : memo.ticksKnown = false) :
    ∃ pending' memo', Reads inner definitions level pending s memo slice pending' memo' ∧
      memo'.ends = memo.ends ∧ memo'.ticksKnown = false ∧
      (rest.head? = some '\n' → pending'.getLast? ≠ some ' ') := by
  cases part with
  | run filled plain stops padding =>
      have run : s.run (!endsText ·) = slice := (holds.run _).trans (takeWhile_plain plain stops)
      refine ⟨pending ++ slice, memo, ?_, rfl, unknown, fun newline => ?_⟩
      · obtain ⟨c, front, rfl⟩ := List.exists_cons_of_ne_nil filled
        refine reads_more fun steps => ?_
        rw [pieces_run deep holds (List.any_eq_false.1 plain c List.mem_cons_self), run]
      · rw [List.getLast?_append_of_ne_nil _ filled]
        exact fun space => padding space newline
  | @char c _ ends begins image bracket =>
      rw [List.singleton_append] at holds
      refine ⟨pending ++ [c], memo, reads_more fun steps => ?_, rfl, unknown, fun _ => ?_⟩
      · exact pieces_char deep holds (by simp_all) image ends (atom?_eq_none holds (by simp_all))
      · rw [List.getLast?_concat]
        rintro ⟨⟩
        exact absurd ends (by decide)
  | lineBreak unindented =>
      -- A break takes the spaces before it away; here there are none.
      have kept : (breakAfter pending).1 = pending :=
        Text.dropRightWhile_of_last fun c last => by
          simp only [beq_eq_false_iff_ne]
          rintro rfl
          exact unpadded rfl last
      refine ⟨[], memo, reads_push (.element (text_breakAfter pending)) fun steps => ?_, rfl, unknown, by simp⟩
      rw [pieces_break deep holds, kept, breakLength_eq holds unindented]
      rfl
  | escape other =>
      obtain ⟨atom, found, length, text⟩ := atom?_escape holds other
      refine ⟨[], memo, reads_push (.element text) fun steps => ?_, rfl, unknown, by simp⟩
      rw [pieces_atom deep holds (.inl rfl) found, length]
      rfl
  | reference named read =>
      obtain ⟨atom, found, length, text⟩ := atom?_reference holds named read
      refine ⟨[], memo, reads_push (.element text) fun steps => ?_, rfl, unknown, by simp⟩
      rw [pieces_atom deep holds (.inr rfl) found, length]
      rfl
  | ampersand read =>
      rw [List.singleton_append] at holds
      refine ⟨pending ++ ['&'], memo, reads_more fun steps => ?_, rfl, unknown, by simp⟩
      exact pieces_char deep holds (by decide) (by simp) rfl (atom?_ampersand holds read)
  | @marks sign count _ sort stops stars =>
      have run : s.run (· == sign) = List.replicate (count + 1) sign :=
        (holds.run _).trans (takeWhile_replicate_append (count + 1) stops)
      have after := holds.advance.head
      rw [List.length_replicate] at after
      refine ⟨[], memo, reads_push (.marks (count + 1) stars) fun steps => ?_, rfl, unknown, by simp⟩
      rw [List.replicate_succ, List.cons_append] at holds
      rw [pieces_marks deep sort holds, run]
      simp only [List.length_replicate, after]
  | @code length code _ encloses first kept stops =>
      obtain ⟨memo', read, ends, still⟩ := ticks_code encloses first stops unknown holds
      refine ⟨[], memo', reads_push (.element (text_code length code)) fun steps => ?_, ends, still, by simp⟩
      have begins : Holds s ('`' :: (List.replicate length '`' ++ (code ++ List.replicate (length + 1) '`') ++ rest))
          beyond := holds
      rw [pieces_code deep begins read, kept, length_codeText]
      rfl

theorem Reads.writes {pending' : Text} (reads : Reads inner definitions level pending s memo slice pending' memo')
    {steps : Nat}
    (writes : Writes (pieces inner definitions level steps pending' (s.advance slice.length) memo').1
      (pending' ++ rest)) :
    Writes (pieces inner definitions level (steps + 1) pending s memo).1 (pending ++ (slice ++ rest)) := by
  obtain ⟨new, done, written, whole, eq⟩ := reads
  rw [eq, ← List.append_assoc, ← whole, List.append_assoc]
  exact written.append writes

theorem Reads.memo_eq {pending' : Text} (reads : Reads inner definitions level pending s memo slice pending' memo')
    (steps : Nat) :
    (pieces inner definitions level (steps + 1) pending s memo).2 =
      (pieces inner definitions level steps pending' (s.advance slice.length) memo').2 := by
  obtain ⟨new, done, -, -, eq⟩ := reads
  rw [eq]

/-- **The pieces of a link text** are written as what was read, and nothing about ends is remembered. -/
theorem pieces_label (deep : level < maxDepth) {t : Text} {before : Char} {steps : Nat}
    (label : IsLabel beyond before t) (holds : Holds s t beyond) (place : s.before = before)
    (enough : t.length < steps) (unpadded : t.head? = some '\n' → pending.getLast? ≠ some ' ')
    (unknown : memo.ticksKnown = false) :
    Writes (pieces inner definitions level steps pending s memo).1 (pending ++ t) ∧
      (pieces inner definitions level steps pending s memo).2.ends = memo.ends ∧
      (pieces inner definitions level steps pending s memo).2.ticksKnown = false := by
  obtain ⟨steps, rfl⟩ : ∃ n, steps = n + 1 := ⟨steps - 1, by omega⟩
  induction label generalizing pending s memo steps with
  | nil =>
      rw [pieces_nil holds, List.append_nil]
      exact ⟨.pending pending, rfl, unknown⟩
  | @cons before slice rest part _ ih =>
      subst place
      obtain ⟨pending', memo', reads, ends, still, padding⟩ :=
        @reads_part inner definitions level _ _ _ _ _ _ deep part holds unpadded unknown
      have long := List.length_pos_iff.2 part.ne_nil
      rw [List.length_append] at enough
      obtain ⟨steps, rfl⟩ : ∃ n, steps = n + 1 := ⟨steps - 1, by omega⟩
      obtain ⟨writes, kept⟩ := ih holds.advance holds.before_advance padding still steps (by omega)
      rw [reads.memo_eq, ← ends]
      exact ⟨reads.writes writes, kept⟩

theorem readSpot_label (deep : level < maxDepth) {label : Text} (inside : IsLabel beyond '[' label)
    (holds : Holds s label beyond) (place : s.before = '[') (unknown : memo.ticksKnown = false) (fuel : Nat) :
    ∃ children memo', readSpot definitions (fuel + 1) level s memo = (children, memo') ∧
      children.flatMap Element.text = label ∧ memo'.ends = memo.ends ∧ memo'.ticksKnown = false := by
  rw [readSpot]
  obtain ⟨writes, ends, still⟩ := @pieces_label
    { link := readSpot definitions fuel, text := fun t => (readSpot definitions fuel 0 (.ofText t) {}).1 }
    definitions level [] beyond s memo deep label '[' (s.room + 1) inside holds place
    (by rw [holds.room]; omega) (by simp) unknown
  exact ⟨_, _, rfl, writes.resolve, ends, still⟩

/-- **A link is read as it is written.** -/
theorem reads_link (deep : level + 1 < maxDepth) {fuel : Nat} (links : inner.link = readSpot definitions (fuel + 1))
    {label href title : Text} (target : IsTarget href title)
    (inside : IsLabel (']' :: '(' :: (targetText href title ++ ')' :: rest)) '[' label)
    (holds : Holds s (linkText label href title ++ rest) []) (fresh : Fresh memo s.pos) :
    ∃ memo', Reads inner definitions level pending s memo (linkText label href title) [] memo' ∧
      Fresh memo' (s.pos + (linkText label href title).length) := by
  obtain ⟨memo', found, later⟩ := @link?_eq definitions maxDepth level s memo rest label href title (by omega)
    fresh target inside holds
  have opened : Holds ((s.advance 1).within label.length) label
      (']' :: '(' :: (targetText href title ++ ')' :: rest)) :=
    ⟨(holds_label holds).tail.trans (List.append_nil _), rfl⟩
  rw [linkText_append] at holds
  have place : ((s.advance 1).within label.length).before = '[' := holds.before_advance ['[']
  obtain ⟨children, memo'', read, text, ends, still⟩ :=
    @readSpot_label definitions (level + 1) _ _ memo' deep label inside opened place later.unknown fuel
  have written := text_link ⟨label.length, href, title, (linkText label href title).length⟩ children
  rw [text] at written
  refine ⟨memo'', reads_push (.element written) fun steps => ?_, (later.congr ends still).later ?_⟩
  · exact pieces_link (by omega) holds found (by rw [links]; exact read)
  · rw [length_linkText]
    omega

/-- **The pieces of a canonical text** are written as what was read. -/
theorem pieces_canonical (deep : level + 1 < maxDepth) {fuel : Nat}
    (links : inner.link = readSpot definitions (fuel + 1)) {t : Text} {before : Char} {steps : Nat}
    (canonical : IsCanonical before t) (holds : Holds s t []) (place : s.before = before)
    (enough : t.length < steps) (unpadded : t.head? = some '\n' → pending.getLast? ≠ some ' ')
    (fresh : Fresh memo s.pos) :
    Writes (pieces inner definitions level steps pending s memo).1 (pending ++ t) := by
  obtain ⟨steps, rfl⟩ : ∃ n, steps = n + 1 := ⟨steps - 1, by omega⟩
  induction canonical generalizing pending s memo steps with
  | nil =>
      rw [pieces_nil holds, List.append_nil]
      exact .pending pending
  | @cons before slice rest part _ ih =>
      subst place
      obtain ⟨pending', memo', reads, ends, still, padding⟩ :=
        @reads_part inner definitions level _ _ _ _ _ _ (by omega) part holds unpadded fresh.unknown
      have long := List.length_pos_iff.2 part.ne_nil
      rw [List.length_append] at enough
      obtain ⟨steps, rfl⟩ : ∃ n, steps = n + 1 := ⟨steps - 1, by omega⟩
      refine reads.writes (ih holds.advance holds.before_advance padding ?_ steps (by omega))
      rw [Spot.pos_advance]
      exact (fresh.congr ends still).later (Nat.le_add_right _ _)
  | @link before label href title rest target inside _ ih =>
      obtain ⟨memo', reads, later⟩ := @reads_link inner definitions level pending rest s memo deep fuel links _ _ _
        target inside holds fresh
      have last : (linkText label href title).getLast?.getD s.before = ')' := by
        simp [linkText, List.getLast?_cons, List.getLast?_append]
      rw [List.length_append, length_linkText] at enough
      obtain ⟨steps, rfl⟩ : ∃ n, steps = n + 1 := ⟨steps - 1, by omega⟩
      refine reads.writes (ih holds.advance (holds.before_advance.trans last) (by simp) ?_ steps (by omega))
      rwa [Spot.pos_advance]

end Reads

end Inline

end Markdown

open Markdown in
/-- **Canonical text is settled.** -/
theorem Text.isSettled_of_isCanonical {t : Text} (canonical : Inline.IsCanonical ' ' t) : t.IsSettled := by
  rw [IsSettled, inlinesOf, renderInlines_toInlines]
  cases t with
  | nil => rfl
  | cons c t =>
      rw [Inline.read, Inline.readSpot]
      exact (Inline.pieces_canonical (by decide) rfl canonical (Inline.holds_ofText _) rfl (Nat.lt_succ_self _)
        (by simp) ⟨rfl, by simp⟩).resolve

end DocComment
