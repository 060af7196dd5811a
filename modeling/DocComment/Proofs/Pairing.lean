/- Pairs of emphasis marks never cross. The marks are looked at from left to right, and the search for an
opening mark goes back from a closing one, past the marks that need not be looked at again. It only comes to
marks that are exposed: no pair lies around them or begins with them (`Exposed.next`). So a pair that is made
holds earlier pairs as a whole or not at all. What one look keeps is `Nested`; it holds of the pairs of any
list of marks (`nested_ofDelimiters`). -/
import DocComment.Markdown.Emphasis

namespace DocComment.Markdown.Emphasis.Pairing

set_option autoImplicit false

/-- Whether the mark with one index opens what the mark with another index closes. -/
def Pairs (p : Pairing) (o c : Nat) : Prop := (p.get o).closer = some c

def Single (p : Pairing) (j : Nat) : Prop := ∀ k, ¬ p.Pairs j k ∧ ¬ p.Pairs k j

/-- Whether no pair lies around a mark or begins with it. -/
def Exposed (p : Pairing) (j : Nat) : Prop := ∀ o c, p.Pairs o c → o ≤ j → c ≤ j

/-- The marks after `i` of them were looked at. -/
structure Nested (marks : List Delimiter) (p : Pairing) (i : Nat) : Prop where
  size : p.delimiters.size = marks.length
  jumps : p.jumps.size = i
  /-- Marks keep their places and signs, and none begins to open. -/
  place : ∀ j, (p.get j).place = (marks.toArray.getD j .absent).place
  sign : ∀ j, (p.get j).mark.sign = (marks.toArray.getD j .absent).mark.sign
  opener : ∀ j, (p.get j).mark.canOpen = true → (marks.toArray.getD j .absent).mark.canOpen = true
  order : ∀ o c, p.Pairs o c → o < c ∧ c < i
  signs : ∀ o c, p.Pairs o c → (p.get o).mark.sign = (p.get c).mark.sign
  /-- What opens is told from what closes by whether it can open. -/
  opens : ∀ o c, p.Pairs o c → (p.get o).mark.canOpen = true
  closes : ∀ o c, p.Pairs o c → (p.get c).mark.canOpen = false
  /-- A pair that begins inside another one ends inside it. -/
  inside : ∀ o c o' c', p.Pairs o c → p.Pairs o' c' → o < o' → o' < c → c' < c
  single : ∀ j, p.Single j → p.jump j = 0
  /-- Where the search goes on after a closing mark, only pairs that close later lie around. -/
  beyond : ∀ o c j, p.Pairs o c → c = j + (p.jump c + 1) →
    ∀ o' c', p.Pairs o' c' → o' ≤ j → c' ≤ j ∨ c < c'
  /-- The marks of the run that is looked at have no partners. -/
  run : p.last.isSome = true → p.head < i ∧ ∀ j, p.head ≤ j → j < i → p.Single j
  bottoms : ∀ entry ∈ p.bottoms, -1 ≤ entry.2

variable {marks : List Delimiter} {p : Pairing} {i j o c : Nat}

theorem Nested.single_of_le (nested : Nested marks p i) (late : i ≤ j) : p.Single j := by
  intro k
  constructor
  · intro pairs
    have := nested.order j k pairs
    omega
  · intro pairs
    have := nested.order k j pairs
    omega

/-! ## The search -/

/-- The search stays among exposed marks. -/
theorem Exposed.next (nested : Nested marks p i) (exposed : p.Exposed j) {next : Nat}
    (step : j = next + (p.jump j + 1)) : p.Exposed next := by
  intro o c pairs before
  have below : c ≤ j := exposed o c pairs (by omega)
  by_cases closes : ∃ k, p.Pairs k j
  · obtain ⟨k, closing⟩ := closes
    rcases nested.beyond k j next closing step o c pairs before with inside | outside
    · exact inside
    · omega
  · have single : p.Single j := fun k => by
      refine ⟨fun opening => ?_, fun closing => closes ⟨k, closing⟩⟩
      have := exposed j k opening (Nat.le_refl j)
      have := nested.order j k opening
      omega
    have other : c ≠ j := by
      rintro rfl
      exact closes ⟨o, pairs⟩
    have := nested.single j single
    omega

/-- What the search finds. -/
structure Found (p : Pairing) (closer : Mark) (o : Nat) : Prop where
  exposed : p.Exposed o
  sign : (p.get o).mark.sign = closer.sign
  canOpen : (p.get o).mark.canOpen = true
  free : (p.get o).closer = none

/-- The search goes down from one exposed mark to the next, so what it finds lies inside no pair. -/
theorem found_of_find? (nested : Nested marks p i) {closer : Mark} {bottom : Int} (low : -1 ≤ bottom)
    {count : Nat} {start : Int} {limit : Nat} (below : start < limit)
    (exposed : ∀ j : Nat, start = j → p.Exposed j)
    (found : p.find? closer bottom count start = some o) : o < limit ∧ p.Found closer o := by
  induction count generalizing start with
  | zero => cases found
  | succ count ih =>
      rw [find?] at found
      split at found
      · cases found
      obtain ⟨j, rfl⟩ : ∃ j : Nat, start = j := ⟨start.toNat, by omega⟩
      rw [Int.toNat_natCast] at found
      dsimp only at found
      split at found
      · rename_i fits
        obtain rfl := Option.some.inj found
        simp only [Bool.and_eq_true, beq_iff_eq, Option.isNone_iff_eq_none] at fits
        obtain ⟨⟨⟨sign, canOpen⟩, free⟩, -⟩ := fits
        exact ⟨by omega, exposed j rfl, sign, canOpen, free⟩
      · refine ih (by omega) (fun next same => ?_) found
        exact (exposed j rfl).next nested (by omega)

/-! ## One look -/

/-- The state when a mark begins to be looked at. -/
def visit (p : Pairing) (i : Nat) : Pairing :=
  { p with
    jumps := p.jumps.push 0
    head :=
      if (p.get p.head).mark.sign == (p.get i).mark.sign && p.last.map (· + 1) == some (p.get i).place then
        p.head
      else i
    last := some (p.get i).place }

/-- The index with which the search for a partner begins. -/
def first (p : Pairing) (i : Nat) : Int := ((p.visit i).head : Int) - (p.visit i).jump (p.visit i).head - 1

theorem look_eq (p : Pairing) (i : Nat) :
    p.look i =
      if !(p.get i).mark.canClose then p.visit i
      else
        match (p.visit i).find? (p.get i).mark ((p.bottoms.lookup (key (p.get i).mark)).getD (-1)) (i + 1)
            (p.first i) with
        | some opener => (p.visit i).join opener i
        | none =>
          if p.first i = -1 then p.visit i
          else { p.visit i with bottoms := (key (p.get i).mark, p.first i) :: p.bottoms } := rfl

theorem jump_visit (p : Pairing) (i j : Nat) : (p.visit i).jump j = p.jump j := by
  simp only [jump, visit, Array.getD_eq_getD_getElem?, Array.getElem?_push]
  split
  · rename_i last
    simp [last]
  · rfl

/-- Beginning to look at a mark pairs nothing. Only the run that is being looked at may begin anew. -/
theorem nested_visit (nested : Nested marks p i) : Nested marks (p.visit i) (i + 1) := by
  have order : ∀ o c, (p.visit i).Pairs o c → o < c ∧ c < i + 1 := fun o c pairs => by
    have := nested.order o c pairs
    omega
  refine { nested with
    jumps := by rw [visit, Array.size_push, nested.jumps]
    order
    single := fun j single => (jump_visit p i j).trans (nested.single j single)
    beyond := fun o c j pairs step => nested.beyond o c j pairs (by rwa [jump_visit] at step)
    run := fun _ => ?_ }
  rw [visit]
  dsimp only
  split
  · rename_i same
    have looked : p.last.isSome = true := by
      cases last : p.last with
      | none => simp [last] at same
      | some _ => rfl
    obtain ⟨early, singles⟩ := nested.run looked
    refine ⟨by omega, fun j from_ upTo => ?_⟩
    by_cases now : j < i
    · exact singles j from_ now
    · exact nested.single_of_le (Nat.not_lt.mp now)
  · exact ⟨Nat.lt_succ_self i, fun j from_ _ => nested.single_of_le from_⟩

/-- The search begins before the run, where no pair lies around. -/
theorem exposed_first (nested : Nested marks p i) :
    p.first i < i ∧ -1 ≤ p.first i ∧ ∀ j : Nat, p.first i = j → (p.visit i).Exposed j := by
  have visited := nested_visit nested
  obtain ⟨early, singles⟩ := visited.run rfl
  have alone := visited.single _ (singles _ (Nat.le_refl _) early)
  have start : p.first i = ((p.visit i).head : Int) - 1 := by rw [first, alone]; omega
  refine ⟨by omega, by omega, fun j same o c pairs _ => ?_⟩
  rcases Nat.lt_or_ge c (p.visit i).head with before | late
  · omega
  · exact absurd pairs (singles c late (visited.order o c pairs).2 o).2

/-! ## Pairing two marks -/

theorem getD_setIfInBounds {α : Type} (values : Array α) (i j : Nat) (value default : α) :
    (values.setIfInBounds i value).getD j default =
      if j = i ∧ i < values.size then value else values.getD j default := by
  simp only [Array.getD_eq_getD_getElem?, Array.getElem?_setIfInBounds]
  by_cases same : j = i
  · by_cases inside : i < values.size
    · simp [same, inside]
    · simp [same, inside]
  · simp [same, Ne.symm same]

/-- How many marks before an opening mark need not be looked at. -/
def skipped (p : Pairing) (opener : Nat) : Nat :=
  if 0 < opener && !(p.get (opener - 1)).mark.canOpen then p.jump (opener - 1) + 1 else 0

section Join

variable (less : o < c) (marked : c < p.delimiters.size)

include less marked

theorem get_join (j : Nat) :
    (p.join o c).get j =
      if j = o then
        { p.get o with
          mark := { (p.get o).mark with canClose := false }
          closer := some c }
      else if j = c then { p.get c with mark := { (p.get c).mark with canOpen := false } }
      else p.get j := by
  have here : o < p.delimiters.size := Nat.lt_trans less marked
  simp only [get, join, getD_setIfInBounds, Array.size_setIfInBounds, here, marked, and_true]

theorem place_join (j : Nat) : ((p.join o c).get j).place = (p.get j).place := by
  rw [get_join less marked]
  split
  · rename_i isOpener
    rw [isOpener]
  · split
    · rename_i isCloser
      rw [isCloser]
    · rfl

theorem sign_join (j : Nat) : ((p.join o c).get j).mark.sign = (p.get j).mark.sign := by
  rw [get_join less marked]
  split
  · rename_i isOpener
    rw [isOpener]
  · split
    · rename_i isCloser
      rw [isCloser]
    · rfl

theorem canOpen_join (j : Nat) :
    ((p.join o c).get j).mark.canOpen = if j = c then false else (p.get j).mark.canOpen := by
  rw [get_join less marked]
  split
  · rename_i isOpener
    rw [isOpener, if_neg (Nat.ne_of_lt less)]
  · split <;> rfl

/-- Joining sets one partner and leaves all others as they were. -/
theorem pairs_join (j k : Nat) : (p.join o c).Pairs j k ↔ j = o ∧ k = c ∨ j ≠ o ∧ p.Pairs j k := by
  rw [Pairs, get_join less marked]
  split
  · rename_i isOpener
    simp [isOpener, eq_comm]
  · rename_i other
    split
    · rename_i isCloser
      subst isCloser
      simp [other, Pairs]
    · simp [other, Pairs]

end Join

theorem jump_join (less : o < c) (looked : c < p.jumps.size) (j : Nat) :
    (p.join o c).jump j =
      if j = o then p.skipped o else if j = c then c - o + p.skipped o else p.jump j := by
  have here : o < p.jumps.size := Nat.lt_trans less looked
  rw [jump, join]
  simp only [getD_setIfInBounds, Array.size_setIfInBounds, here, looked, and_true]
  rfl

/-- What the search finds has no partner yet. -/
theorem Found.single (nested : Nested marks p i) {closer : Mark} (found : p.Found closer o) :
    p.Single o := by
  intro k
  constructor
  · intro opening
    rw [Pairs, found.free] at opening
    cases opening
  · intro closing
    have := nested.closes k o closing
    rw [found.canOpen] at this
    cases this

/-- Past the marks before an exposed one that need not be looked at, marks are exposed. -/
theorem Exposed.before (nested : Nested marks p i) (exposed : p.Exposed o) (single : p.Single o)
    (step : o = j + (p.skipped o + 1)) : p.Exposed j := by
  obtain ⟨n, rfl⟩ : ∃ n, o = n + 1 := ⟨o - 1, by omega⟩
  have alone := nested.single _ single
  have previous : p.Exposed n := exposed.next nested (by omega)
  rw [skipped, Nat.add_sub_cancel] at step
  split at step
  · exact previous.next nested (by omega)
  · obtain rfl : n = j := by omega
    exact previous

section Joined

variable (nested : Nested marks p (i + 1)) (marked : i < p.delimiters.size) (less : o < i)
  (found : p.Found (p.get i).mark o)
include nested marked less found

/-- The new pair ends after all others, and begins inside none of them, as its opening mark is exposed. -/
theorem inside_join (early : ∀ o c, p.Pairs o c → c < i) (x y x' y' : Nat) (outer : (p.join o i).Pairs x y)
    (inner : (p.join o i).Pairs x' y') (after : x < x') (inside : x' < y) : y' < y := by
  rcases (pairs_join less marked x y).mp outer with ⟨rfl, rfl⟩ | ⟨-, old⟩
  · rcases (pairs_join less marked x' y').mp inner with ⟨rfl, rfl⟩ | ⟨-, old'⟩
    · omega
    · exact early x' y' old'
  · rcases (pairs_join less marked x' y').mp inner with ⟨rfl, rfl⟩ | ⟨-, old'⟩
    · have := found.exposed x y old (Nat.le_of_lt after)
      omega
    · exact nested.inside x y x' y' old old' after inside

theorem single_join (looked : i < p.jumps.size) (alone : (p.join o i).Single j) : (p.join o i).jump j = 0 := by
  have pairs := pairs_join less marked
  have notOpener : j ≠ o := by
    rintro rfl
    exact (alone i).1 ((pairs j i).mpr (.inl ⟨rfl, rfl⟩))
  have notCloser : j ≠ i := by
    rintro rfl
    exact (alone o).2 ((pairs o j).mpr (.inl ⟨rfl, rfl⟩))
  rw [jump_join less looked, if_neg notOpener, if_neg notCloser]
  refine nested.single j fun k => ⟨fun opening => ?_, fun closing => ?_⟩
  · exact (alone k).1 ((pairs j k).mpr (.inr ⟨notOpener, opening⟩))
  · refine (alone k).2 ((pairs k j).mpr (.inr ⟨?_, closing⟩))
    rintro rfl
    exact (found.single nested j).1 closing

/-- From the new closing mark the search goes on before the new opening mark, past what may be skipped there. -/
theorem beyond_join (early : ∀ o c, p.Pairs o c → c < i) (looked : i < p.jumps.size) (x y j : Nat)
    (joined : (p.join o i).Pairs x y)
    (step : y = j + ((p.join o i).jump y + 1)) (x' y' : Nat) (around : (p.join o i).Pairs x' y')
    (before : x' ≤ j) : y' ≤ j ∨ y < y' := by
  have single := found.single nested
  rw [jump_join less looked] at step
  rcases (pairs_join less marked x y).mp joined with ⟨rfl, rfl⟩ | ⟨-, old⟩
  · rw [if_neg (by omega), if_pos rfl] at step
    rcases (pairs_join less marked x' y').mp around with ⟨rfl, rfl⟩ | ⟨-, old'⟩
    · omega
    · exact .inl (found.exposed.before nested single (by omega) x' y' old' before)
  · have notOpener : y ≠ o := by
      rintro rfl
      exact (single x).2 old
    have last := early x y old
    rw [if_neg notOpener, if_neg (by omega)] at step
    rcases (pairs_join less marked x' y').mp around with ⟨rfl, rfl⟩ | ⟨-, old'⟩
    · exact .inr last
    · exact nested.beyond x y j old step x' y' old' before

end Joined

/-- **Pairing a mark with what the search finds keeps the pairs nested.** -/
theorem nested_join (nested : Nested marks p (i + 1)) (early : ∀ o c, p.Pairs o c → c < i)
    (bound : i < marks.length) (less : o < i) (found : p.Found (p.get i).mark o) :
    Nested marks (p.join o i) (i + 1) := by
  have marked : i < p.delimiters.size := by rw [nested.size]; exact bound
  have looked : i < p.jumps.size := by rw [nested.jumps]; exact Nat.lt_succ_self i
  have pairs := pairs_join less marked
  have sign := sign_join less marked
  have canOpen := canOpen_join less marked
  refine {
    size := by rw [← nested.size]; simp [join]
    jumps := by rw [← nested.jumps]; simp [join]
    place := fun j => (place_join less marked j).trans (nested.place j)
    sign := fun j => (sign j).trans (nested.sign j)
    opener := fun j opens => ?_
    order := fun x y joined => ?_
    signs := fun x y joined => ?_
    opens := fun x y joined => ?_
    closes := fun x y joined => ?_
    inside := inside_join nested marked less found early
    single := fun j => single_join nested marked less found looked
    beyond := beyond_join nested marked less found early looked
    run := fun looking => by cases looking
    bottoms := nested.bottoms }
  · rw [canOpen] at opens
    split at opens
    · cases opens
    · exact nested.opener j opens
  · rcases (pairs x y).mp joined with ⟨rfl, rfl⟩ | ⟨-, old⟩
    · exact ⟨less, Nat.lt_succ_self _⟩
    · exact nested.order x y old
  · rw [sign, sign]
    rcases (pairs x y).mp joined with ⟨rfl, rfl⟩ | ⟨-, old⟩
    · exact found.sign
    · exact nested.signs x y old
  · rw [canOpen]
    rcases (pairs x y).mp joined with ⟨rfl, rfl⟩ | ⟨-, old⟩
    · rw [if_neg (Nat.ne_of_lt less)]
      exact found.canOpen
    · have := nested.order x y old
      have := early x y old
      rw [if_neg (by omega)]
      exact nested.opens x y old
  · rw [canOpen]
    split
    · rfl
    · rcases (pairs x y).mp joined with ⟨rfl, rfl⟩ | ⟨-, old⟩
      · contradiction
      · exact nested.closes x y old

/-- **What one look keeps.** -/
theorem nested_look (nested : Nested marks p i) (bound : i < marks.length) :
    Nested marks (p.look i) (i + 1) := by
  have visited := nested_visit nested
  obtain ⟨before, low, exposed⟩ := exposed_first nested
  rw [look_eq]
  split
  · exact visited
  have bottom : -1 ≤ (p.bottoms.lookup (key (p.get i).mark)).getD (-1) := by
    cases found : p.bottoms.lookup (key (p.get i).mark) with
    | none => exact Int.le_refl _
    | some low =>
        obtain ⟨above, below, split, -⟩ := List.lookup_eq_some_iff.mp found
        exact nested.bottoms (key (p.get i).mark, low) (by rw [split]; simp)
  split
  · rename_i opener search
    obtain ⟨less, found⟩ := found_of_find? visited bottom before exposed search
    exact nested_join visited (fun o c pairs => (nested.order o c pairs).2) bound less found
  · split
    · exact visited
    · refine { visited with bottoms := ?_ }
      rw [List.forall_mem_cons]
      exact ⟨low, nested.bottoms⟩

/-- **The pairs of any marks are nested.** -/
theorem nested_ofDelimiters (marks : List Delimiter) (free : ∀ d ∈ marks, d.closer = none) :
    Nested marks (ofDelimiters marks) marks.length := by
  have none : ∀ o c, ¬ Pairs { delimiters := marks.toArray } o c := by
    intro o c pairs
    rw [Pairs, get, Array.getD_eq_getD_getElem?, List.getElem?_toArray] at pairs
    cases here : marks[o]? with
    | none => simp [here, Delimiter.absent] at pairs
    | some d => simp [here, free d (List.mem_of_getElem? here)] at pairs
  have start : Nested marks { delimiters := marks.toArray } 0 := {
    size := List.size_toArray
    jumps := rfl
    place := fun _ => rfl
    sign := fun _ => rfl
    opener := fun _ opens => opens
    order := fun o c pairs => absurd pairs (none o c)
    signs := fun o c pairs => absurd pairs (none o c)
    opens := fun o c pairs => absurd pairs (none o c)
    closes := fun o c pairs => absurd pairs (none o c)
    inside := fun o c _ _ pairs => absurd pairs (none o c)
    single := fun _ _ => rfl
    beyond := fun o c _ pairs => absurd pairs (none o c)
    run := fun looking => by cases looking
    bottoms := by simp }
  have run : ∀ n ≤ marks.length,
      Nested marks ((List.range n).foldl look { delimiters := marks.toArray }) n := by
    intro n
    induction n with
    | zero => exact fun _ => start
    | succ n ih =>
        intro bound
        rw [List.range_succ, List.foldl_append]
        exact nested_look (ih (Nat.le_of_succ_le bound)) bound
  exact run marks.length (Nat.le_refl _)

end DocComment.Markdown.Emphasis.Pairing
