/- How the braces of directives match. The line that closes a body is the first one at which the closing
lines outnumber the opening ones (`Directive.closing?_eq_some_iff`). Up to that line both are equally many,
so a body that is opened on the way is closed on the way (`Directive.closing?_inner`), and the bodies of
directives lie inside each other or apart (`bodies_nest`). The test by which the search recognises an
opening line agrees with what the line is read as (`Directive.opensBody_iff`). -/
import DocComment.Proofs.CommandLines

namespace DocComment.Markdown

set_option autoImplicit false

namespace Directive

/-! ## Opening and closing lines -/

/-- What is written of a directive before its brace does not end with one. -/
theorem trimRight_spelled_ne {d : Directive} (named : isName d.name = true) (front : Text) :
    Text.trimRight d.spelled ≠ front ++ ['{'] := by
  intro ended
  cases inside : d.arguments with
  | none =>
      have member : '{' ∈ d.spelled := by
        refine (Text.dropRightWhile_sublist isBlank d.spelled).subset ?_
        rw [← Text.trimRight, ended]
        exact List.mem_append_right _ List.mem_cons_self
      rw [spelled, inside, List.append_nil] at member
      rcases List.mem_cons.1 member with impossible | later
      · cases impossible
      · exact not_mem_name named (by decide) (by decide) later
  | some arguments =>
      have closed : d.spelled = ('@' :: (d.name ++ '(' :: arguments)) ++ [')'] := by
        rw [spelled, inside]
        simp
      have solid : ([')'] : Text).all isBlank = false := by decide
      rw [closed, Text.trimRight_append solid] at ended
      have last := (List.append_inj' ended rfl).2
      exact absurd last (by decide)

/-- **A line opens a body for the search exactly if it does for the directive that begins on it.** -/
theorem opensBody_iff {line : Text} :
    opensBody line = true ↔ ∃ d, ofLine? line = some d ∧ d.opens = true := by
  rw [opensBody, Bool.and_eq_true, Option.isSome_iff_exists, Text.endsWith, Option.isSome_iff_exists]
  constructor
  · rintro ⟨⟨d, found⟩, front, ended⟩
    refine ⟨d, found, ?_⟩
    rw [Text.before?_eq_some_iff] at ended
    obtain ⟨named, tail, rfl, braced⟩ := ofLine?_eq_some_iff.1 found
    obtain ⟨gap, rest, blankGap, -, rfl⟩ := brace?_eq_some_iff.1 braced
    cases opens : d.opens with
    | true => rfl
    | false =>
        rw [opens, if_neg Bool.false_ne_true, List.append_nil, Text.trimRight_append_right blankGap] at ended
        exact absurd ended (trimRight_spelled_ne named front)
  · rintro ⟨d, found, opens⟩
    refine ⟨⟨d, found⟩, ?_⟩
    obtain ⟨-, tail, rfl, braced⟩ := ofLine?_eq_some_iff.1 found
    obtain ⟨gap, rest, -, blankRest, rfl⟩ := brace?_eq_some_iff.1 braced
    have solid : (['{'] : Text).all isBlank = false := by decide
    rw [opens, if_pos rfl]
    refine ⟨d.spelled ++ gap, Text.before?_eq_some_iff.2 ?_⟩
    calc Text.trimRight (d.spelled ++ (gap ++ '{' :: rest))
        = Text.trimRight ((d.spelled ++ gap ++ ['{']) ++ rest) := by simp
      _ = Text.trimRight (d.spelled ++ gap ++ ['{']) := Text.trimRight_append_right blankRest _
      _ = d.spelled ++ gap ++ ['{'] := Text.trimRight_append solid _

theorem closesBody_eq_false {c : Char} (solid : isBlank c = false) (other : c ≠ '}') (rest : Text) :
    closesBody (c :: rest) = false := by
  have kept : Text.trimRight [c] = [c] := by simp [Text.trimRight, Text.dropRightWhile, solid]
  have trimmed : Text.trim (c :: rest) = c :: Text.trimRight rest := by
    rw [Text.trim, Text.trimLeft, List.dropWhile_cons_of_neg (by simp [solid])]
    exact Text.trimRight_append_of_solid kept rest
  rw [closesBody, trimmed]
  simp [other]

theorem closesBody_of_opensBody {line : Text} (opens : opensBody line = true) :
    closesBody line = false := by
  obtain ⟨d, found, -⟩ := opensBody_iff.1 opens
  obtain ⟨-, tail, rfl, -⟩ := ofLine?_eq_some_iff.1 found
  exact closesBody_eq_false (by decide) (by decide) _

/-! ## Counting -/

def openers (lines : List Text) : Nat := lines.countP opensBody

def closers (lines : List Text) : Nat := lines.countP closesBody

theorem openers_cons (line : Text) (lines : List Text) :
    openers (line :: lines) = (opensBody line).toNat + openers lines := by
  rw [openers, List.countP_cons, Nat.add_comm, openers]
  cases opensBody line <;> rfl

theorem closers_cons (line : Text) (lines : List Text) :
    closers (line :: lines) = (closesBody line).toNat + closers lines := by
  rw [closers, List.countP_cons, Nat.add_comm, closers]
  cases closesBody line <;> rfl

theorem openers_append (above below : List Text) :
    openers (above ++ below) = openers above + openers below := List.countP_append

theorem closers_append (above below : List Text) :
    closers (above ++ below) = closers above + closers below := List.countP_append

/-- The first line at which the closing lines outnumber the opening ones and some more. -/
structure Outnumbers (depth : Nat) (lines : List Text) (n : Nat) : Prop where
  inside : n < lines.length
  here : depth + openers (lines.take (n + 1)) < closers (lines.take (n + 1))
  before : ∀ m ≤ n, closers (lines.take m) ≤ depth + openers (lines.take m)

section

variable {depth left n : Nat} {line : Text} {lines : List Text}

theorem openers_take_succ (m : Nat) :
    openers ((line :: lines).take (m + 1)) = openers [line] + openers (lines.take m) :=
  openers_append [line] _

theorem closers_take_succ (m : Nat) :
    closers ((line :: lines).take (m + 1)) = closers [line] + closers (lines.take m) :=
  closers_append [line] _

/-- After a line that leaves some bodies open, these have to be closed. -/
theorem outnumbers_succ_iff (step : depth + openers [line] = left + closers [line]) :
    Outnumbers depth (line :: lines) (n + 1) ↔ Outnumbers left lines n := by
  constructor
  · rintro ⟨inside, here, before⟩
    rw [openers_take_succ, closers_take_succ] at here
    refine ⟨Nat.lt_of_succ_lt_succ inside, by omega, fun m le => ?_⟩
    have later := before (m + 1) (Nat.succ_le_succ le)
    rw [openers_take_succ, closers_take_succ] at later
    omega
  · rintro ⟨inside, here, before⟩
    refine ⟨Nat.succ_lt_succ inside, ?_, fun m le => ?_⟩
    · rw [openers_take_succ, closers_take_succ]
      omega
    · cases m with
      | zero => exact Nat.zero_le _
      | succ m =>
          have earlier := before m (Nat.le_of_succ_le_succ le)
          rw [openers_take_succ, closers_take_succ]
          omega

theorem not_outnumbers_zero (step : depth + openers [line] = left + closers [line]) :
    ¬ Outnumbers depth (line :: lines) 0 := by
  rintro ⟨-, here, -⟩
  rw [openers_take_succ, closers_take_succ] at here
  simp [openers, closers] at here step
  omega

/-- The search goes on below a line that leaves bodies open. -/
theorem map_closing?_iff (step : depth + openers [line] = left + closers [line])
    (ih : ∀ n, closing? left lines = some n ↔ Outnumbers left lines n) :
    (closing? left lines).map (· + 1) = some n ↔ Outnumbers depth (line :: lines) n := by
  rw [Option.map_eq_some_iff]
  cases n with
  | zero =>
      constructor
      · rintro ⟨m, -, impossible⟩
        cases impossible
      · exact fun first => absurd first (not_outnumbers_zero step)
  | succ n =>
      rw [outnumbers_succ_iff step, ← ih]
      constructor
      · rintro ⟨m, found, same⟩
        cases same
        exact found
      · exact fun found => ⟨n, found, rfl⟩

end

/-- **Where a body is closed:** at the first line at which more bodies have been closed than opened. -/
theorem closing?_eq_some_iff {depth n : Nat} {lines : List Text} :
    closing? depth lines = some n ↔ Outnumbers depth lines n := by
  induction lines generalizing depth n with
  | nil =>
      constructor
      · intro impossible
        cases impossible
      · rintro ⟨inside, -, -⟩
        cases inside
  | cons line lines ih =>
      unfold closing?
      by_cases closes : closesBody line = true
      · have opens : opensBody line = false := by
          cases opens : opensBody line with
          | false => rfl
          | true =>
              rw [closesBody_of_opensBody opens] at closes
              cases closes
        rw [if_pos closes]
        cases depth with
        | zero =>
            -- Nothing else is open, so this is the line; a later one would not be the first.
            constructor
            · rintro ⟨⟩
              refine ⟨Nat.succ_pos _, ?_, fun m none => ?_⟩
              · simp [openers, closers, closes, opens]
              · simp [Nat.le_zero.1 none, closers]
            · intro first
              cases n with
              | zero => rfl
              | succ n =>
                  have early := first.before 1 (Nat.succ_le_succ (Nat.zero_le n))
                  simp [openers, closers, closes, opens] at early
        | succ depth => exact map_closing?_iff (by simp [openers, closers, closes, opens]) fun n => ih
      · rw [if_neg closes]
        by_cases opens : opensBody line = true
        · rw [if_pos opens]
          exact map_closing?_iff (by simp [openers, closers, closes, opens]) fun n => ih
        · rw [if_neg opens]
          exact map_closing?_iff (by simp [openers, closers, closes, opens]) fun n => ih

/-- Where more bodies have been closed than opened, the search has found its line. -/
theorem exists_closing? {depth : Nat} {lines : List Text} (k : Nat)
    (more : depth + openers (lines.take k) < closers (lines.take k)) :
    ∃ n < k, closing? depth lines = some n := by
  induction k using Nat.strong_induction_on with
  | _ k ih =>
      cases k with
      | zero => simp [closers] at more
      | succ k =>
          by_cases earlier : ∃ m ≤ k, depth + openers (lines.take m) < closers (lines.take m)
          · obtain ⟨m, le, early⟩ := earlier
            obtain ⟨n, below, closed⟩ := ih m (by omega) early
            exact ⟨n, by omega, closed⟩
          · have before : ∀ m ≤ k, closers (lines.take m) ≤ depth + openers (lines.take m) :=
              fun m le => Nat.le_of_not_lt fun early => earlier ⟨m, le, early⟩
            have inside : k < lines.length := by
              refine Nat.lt_of_not_le fun short => ?_
              have last := before k (Nat.le_refl k)
              rw [List.take_of_length_le short] at last
              rw [List.take_of_length_le (Nat.le_succ_of_le short)] at more
              omega
            exact ⟨k, Nat.lt_succ_self k, closing?_eq_some_iff.2 ⟨inside, more, before⟩⟩

/-- Before the line that closes a body, as many bodies have been opened as closed. -/
theorem Outnumbers.openers_le {depth n : Nat} {lines : List Text} (first : Outnumbers depth lines n) :
    depth + openers (lines.take n) ≤ closers (lines.take n) := by
  have here := first.here
  rw [List.take_add_one, openers_append, closers_append] at here
  have single : closers lines[n]?.toList ≤ 1 := by
    rw [List.getElem?_eq_getElem first.inside]
    exact List.countP_le_length
  omega

/-- The line at which the closing lines get ahead is one of them. -/
theorem Outnumbers.closes {depth n : Nat} {lines : List Text} {line : Text}
    (first : Outnumbers depth lines n) (found : lines[n]? = some line) : closesBody line = true := by
  have here := first.here
  have before := first.before n (Nat.le_refl n)
  rw [List.take_add_one, found, openers_append, closers_append] at here
  have single : 0 < closers [line] := by
    show 0 < closers (some line).toList
    omega
  cases closes : closesBody line with
  | true => rfl
  | false => simp [closers, closes] at single

/-- **A body that is opened inside another is closed inside it.** -/
theorem closing?_inner {lines : List Text} {n j : Nat} {line : Text} (closed : closing? 0 lines = some n)
    (before : j < n) (found : lines[j]? = some line) (opens : opensBody line = true) :
    ∃ m, closing? 0 ((lines.take n).drop (j + 1)) = some m ∧ j + 1 + m < n := by
  have first := closing?_eq_some_iff.1 closed
  have level := first.openers_le
  have earlier := first.before j (Nat.le_of_lt before)
  have opening : openers [line] = 1 ∧ closers [line] = 0 := by
    simp [openers, closers, opens, closesBody_of_opensBody opens]
  have whole : lines.take n = lines.take j ++ ([line] ++ (lines.take n).drop (j + 1)) := by
    have cut := (List.take_append_drop (j + 1) (lines.take n)).symm
    rw [List.take_take, Nat.min_eq_left before, List.take_add_one, found, List.append_assoc] at cut
    exact cut
  rw [whole, openers_append, openers_append, closers_append, closers_append, opening.1, opening.2] at level
  have size : ((lines.take n).drop (j + 1)).length = n - (j + 1) := by
    rw [List.length_drop, List.length_take, Nat.min_eq_left (Nat.le_of_lt first.inside)]
  obtain ⟨m, below, inner⟩ := @exists_closing? 0 ((lines.take n).drop (j + 1)) (n - (j + 1)) (by
    rw [← size, List.take_length]
    omega)
  exact ⟨m, inner, by omega⟩

end Directive

/-! ## The bodies in a frame -/

theorem Frame.range_split {first middle stop : Nat} (above : first ≤ middle) (below : middle ≤ stop) :
    range first stop = range first middle ++ range middle stop := by
  have cut := range_append first (middle - first) (stop - middle)
  rwa [show first + (middle - first + (stop - middle)) = stop by omega,
    show first + (middle - first) = middle by omega, show middle + (stop - middle) = stop by omega] at cut

theorem Frame.take_range {first stop k : Nat} (inside : first + k ≤ stop) :
    (range first stop).take k = range first (first + k) := by
  rw [range_split (Nat.le_add_right first k) inside, List.take_left' (by simp [range])]

theorem Frame.drop_range {first stop k : Nat} (inside : first + k ≤ stop) :
    (range first stop).drop k = range (first + k) stop := by
  rw [range_split (Nat.le_add_right first k) inside, List.drop_left' (by simp [range])]

theorem Frame.getElem?_range {first stop k : Nat} (inside : first + k < stop) :
    (range first stop)[k]? = some (first + k) := by
  rw [range, List.getElem?_map, List.getElem?_range (by omega)]
  rfl

namespace Command

/-- The line that closes the body which begins after a line, among the lines up to another. -/
def closingLine? (frame : Frame) (start stop : Nat) : Option Nat :=
  (Directive.closing? 0 ((Frame.range (start + 1) stop).map frame.body)).map (start + 1 + ·)

/-- The lines after one up to another and with it. -/
def linesUpTo (frame : Frame) (n m : Nat) : List Text := (Frame.range (n + 1) (m + 1)).map frame.body

variable {frame : Frame} {i c stop : Nat}

theorem closingLine?_bounds (closed : closingLine? frame i stop = some c) : i < c ∧ c < stop := by
  obtain ⟨n, found, rfl⟩ := Option.map_eq_some_iff.1 closed
  have inside := (Directive.closing?_eq_some_iff.1 found).inside
  simp only [Frame.range, List.length_map, List.length_range] at inside
  omega

theorem closesBody_closingLine (closed : closingLine? frame i stop = some c) :
    Directive.closesBody (frame.body c) = true := by
  have bounds := closingLine?_bounds closed
  obtain ⟨n, found, rfl⟩ := Option.map_eq_some_iff.1 closed
  refine (Directive.closing?_eq_some_iff.1 found).closes ?_
  rw [List.getElem?_map, Frame.getElem?_range bounds.2]
  rfl

/-- **A body ends at the first line at which more have been closed than opened since it began.** -/
theorem closingLine?_first (closed : closingLine? frame i stop = some c) :
    Directive.openers (linesUpTo frame i c) < Directive.closers (linesUpTo frame i c) ∧
      ∀ m, i ≤ m → m < c →
        Directive.closers (linesUpTo frame i m) ≤ Directive.openers (linesUpTo frame i m) := by
  have bounds := closingLine?_bounds closed
  obtain ⟨n, found, rfl⟩ := Option.map_eq_some_iff.1 closed
  obtain ⟨inside, here, before⟩ := Directive.closing?_eq_some_iff.1 found
  have upTo : ∀ k ≤ n + 1, ((Frame.range (i + 1) stop).map frame.body).take k = linesUpTo frame i (i + k) := by
    intro k le
    rw [← List.map_take, Frame.take_range (by omega), linesUpTo, Nat.add_right_comm]
  constructor
  · rw [upTo (n + 1) (Nat.le_refl _), Nat.zero_add] at here
    rw [show i + 1 + n = i + (n + 1) by omega]
    exact here
  · intro m above below
    have earlier := before (m - i) (by omega)
    rw [upTo (m - i) (by omega), Nat.zero_add, show i + (m - i) = m by omega] at earlier
    exact earlier

/-- **A directive in the body of another ends before it does,** also if the other bounds the search. -/
theorem closingLine?_inner (closed : closingLine? frame i stop = some c) {j : Nat} (after : i < j)
    (before : j < c) (opens : Directive.opensBody (frame.body j) = true) :
    ∃ d, j < d ∧ d < c ∧ closingLine? frame j c = some d ∧ closingLine? frame j stop = some d := by
  have bounds := closingLine?_bounds closed
  obtain ⟨n, found, rfl⟩ := Option.map_eq_some_iff.1 closed
  have here : ((Frame.range (i + 1) stop).map frame.body)[j - (i + 1)]? = some (frame.body j) := by
    rw [List.getElem?_map, Frame.getElem?_range (by omega), show i + 1 + (j - (i + 1)) = j by omega]
    rfl
  obtain ⟨m, inner, below⟩ := Directive.closing?_inner found (by omega) here opens
  rw [← List.map_take, ← List.map_drop, Frame.take_range (by omega), Frame.drop_range (by omega),
    show i + 1 + (j - (i + 1) + 1) = j + 1 by omega] at inner
  refine ⟨j + 1 + m, by omega, by omega, ?_, ?_⟩
  · rw [closingLine?, inner]
    rfl
  · rw [closingLine?, Frame.range_split (show j + 1 ≤ i + 1 + n by omega) (by omega), List.map_append,
      Directive.closing?_append _ inner]
    rfl

/-- The directive that begins on a line goes on to the line that closes its body. -/
theorem readDirective?_closed (inner : Reader) (definitions : Definitions) (shallow : frame.isCode i = false)
    (opens : Directive.opensBody (frame.body i) = true) (closed : closingLine? frame i stop = some c) :
    ∃ reading, readDirective? inner frame definitions i stop = some reading ∧ reading.stop = c + 1 := by
  have bounds := closingLine?_bounds closed
  obtain ⟨d, read, body⟩ := Directive.opensBody_iff.1 opens
  obtain ⟨n, found, rfl⟩ := Option.map_eq_some_iff.1 closed
  rw [readDirective?, shallow, read]
  simp only [Bool.false_eq_true, if_false, Option.map_some, body, if_true, found, bounds.2]
  exact ⟨_, rfl, rfl⟩

/-- **The bodies of directives are well nested.** The search takes a line for the opening of a body exactly if
the directive on that line has one. It ends at the first line at which more bodies have been closed than
opened, and that line ends the directive. A directive that begins inside the body finds its own closing line
before that, whether or not the search for it is bounded by the body. So two bodies lie one inside the other
or one after the other. -/
theorem bodies_nest :
    (∀ line, Directive.opensBody line = true ↔
      ∃ d, Directive.ofLine? line = some d ∧ d.opens = true) ∧
    ∀ (frame : Frame) (i c stop : Nat), Directive.opensBody (frame.body i) = true →
      closingLine? frame i stop = some c →
      (i < c ∧ c < stop) ∧
      (Directive.openers (linesUpTo frame i c) < Directive.closers (linesUpTo frame i c) ∧
        ∀ m, i ≤ m → m < c →
          Directive.closers (linesUpTo frame i m) ≤ Directive.openers (linesUpTo frame i m)) ∧
      (∀ inner definitions, frame.isCode i = false → ∃ reading,
        readDirective? inner frame definitions i stop = some reading ∧ reading.stop = c + 1) ∧
      (∀ j, i < j → j < c → Directive.opensBody (frame.body j) = true →
        ∃ d, j < d ∧ d < c ∧ closingLine? frame j c = some d ∧ closingLine? frame j stop = some d) ∧
      ∀ j d, i < j → Directive.opensBody (frame.body j) = true → closingLine? frame j stop = some d →
        c < j ∨ d < c := by
  refine ⟨fun line => Directive.opensBody_iff, fun frame i c stop opens closed => ?_⟩
  refine ⟨closingLine?_bounds closed, closingLine?_first closed, fun inner definitions shallow =>
    readDirective?_closed inner definitions shallow opens closed, fun j after before opensInner =>
    closingLine?_inner closed after before opensInner, fun j d after opensInner closedInner => ?_⟩
  rcases Nat.lt_trichotomy c j with apart | rfl | before
  · exact .inl apart
  · have closes := closesBody_closingLine closed
    rw [Directive.closesBody_of_opensBody opensInner] at closes
    cases closes
  · obtain ⟨e, -, below, -, found⟩ := closingLine?_inner closed after before opensInner
    rw [closedInner] at found
    cases found
    exact .inr below

/-- Two directives with a body inside a third one. What follows the mark of an item opens no body. -/
def nestedBodies : Frame :=
  { lines := readLines
      "@A \x7b\n  @B(x \x7b) \x7b \n    \x7d\n- @C \x7b\n\t@D(y) \x7b\n \x7d\n\x7d\n\x7d".toList
    limit := 8 }

/-- The inner bodies end before the outer one, although a line of an item looks as if it opened another. -/
theorem bodies_nest_nestedBodies :
    Directive.opensBody (nestedBodies.body 0) = true ∧ closingLine? nestedBodies 0 8 = some 6 ∧
    (∃ reading, readDirective? (Block.readBlocks {} 20) nestedBodies [] 0 8 = some reading ∧
      reading.stop = 7) ∧
    (∃ d, closingLine? nestedBodies 1 6 = some d ∧ d < 6) ∧
    ∃ d, closingLine? nestedBodies 4 8 = some d ∧ d < 6 := by
  have opens : Directive.opensBody (nestedBodies.body 0) = true := by decide
  have closed : closingLine? nestedBodies 0 8 = some 6 := by decide
  obtain ⟨-, -, ends, inner, -⟩ := bodies_nest.2 nestedBodies 0 6 8 opens closed
  obtain ⟨d, -, below, bounded, -⟩ := inner 1 (by decide) (by decide) (by decide)
  obtain ⟨e, -, belowToo, -, free⟩ := inner 4 (by decide) (by decide) (by decide)
  exact ⟨opens, closed, ends _ _ (by decide), ⟨d, bounded, below⟩, e, free, belowToo⟩

end Command

end DocComment.Markdown
