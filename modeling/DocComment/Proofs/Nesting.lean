/- Emphasis keeps the text. What becomes of the marks of a line is told by their roles. Roles that close what
they open, each in the right order, nest the pieces of the line without loss: every mark that becomes emphasis
is written again as the star that it was (`text_nest`). The roles that pairs give are such: since no pairs
cross, the roles of one more pair can be put around what has only plain marks so far (`Closes.pair`,
`Closes.pairs`). So a line is rendered as it was written if whatever can open in it is a star
(`text_resolve`); emphasis in low lines is rendered with stars. -/
import DocComment.Markup.Render
import DocComment.Proofs.Pairing
import Mathlib.Tactic.ByContra

namespace DocComment

set_option autoImplicit false

def Element.text (e : Element) : Text := e.toInline.render

theorem Element.text_of_kind {e : Element} (plain : e.kind = .text) : e.text = e.content := by
  cases e
  cases plain
  simp [text, toInline, Node.render, Render.assemble, Kind.isList]

theorem renderInlines_toInlines (elements : List Element) :
    renderInlines (Element.toInlines elements) = elements.flatMap Element.text := by
  induction elements with
  | nil => rfl
  | cons e elements ih =>
      rw [List.flatMap_cons, ← ih]
      rfl

namespace Markdown

def Piece.text : Piece → Text
  | .element e => e.text
  | .mark m => [m.sign]

namespace Emphasis

/-! ## Roles that close what they open -/

/-- One step through pieces at a place: what it does to the elements that are open, where `true` stands for
strong emphasis. The marks of strong emphasis are passed two by two. -/
inductive Step (role : Nat → Role) (place : Nat) : List Bool → List Piece → List Bool → Prop
  | element {stack : List Bool} (e : Element) : Step role place stack [.element e] stack
  | plain {stack : List Bool} (m : Mark) (here : role place = .plain) : Step role place stack [.mark m] stack
  | opening {stack : List Bool} {m : Mark} (star : m.sign = '*') (here : role place = .opening false) :
      Step role place stack [.mark m] (false :: stack)
  | closing {stack : List Bool} {m : Mark} (star : m.sign = '*') (here : role place = .closing false) :
      Step role place (false :: stack) [.mark m] stack
  | openingStrong {stack : List Bool} {m next : Mark} (star : m.sign = '*') (star' : next.sign = '*')
      (here : role place = .outer) (there : role (place + 1) = .opening true) :
      Step role place stack [.mark m, .mark next] (true :: stack)
  | closingStrong {stack : List Bool} {m next : Mark} (star : m.sign = '*') (star' : next.sign = '*')
      (here : role place = .closing true) (there : role (place + 1) = .outer) :
      Step role place (true :: stack) [.mark m, .mark next] stack

/-- Pieces from a place on whose marks close the elements that are open and those that they open. -/
inductive Closes (role : Nat → Role) : Nat → List Bool → List Piece → Prop
  | nil (place : Nat) : Closes role place [] []
  | step {place : Nat} {stack stack' : List Bool} {front rest : List Piece}
      (step : Step role place stack front stack') (after : Closes role (place + front.length) stack' rest) :
      Closes role place stack (front ++ rest)

/-! ## The text of nested pieces -/

theorem text_append (elements : List Element) (e : Element) :
    (append elements e).flatMap Element.text = elements.flatMap Element.text ++ e.text := by
  fun_induction append elements e with
  | case1 => simp
  | case2 last both =>
      simp only [Bool.and_eq_true, decide_eq_true_eq] at both
      simp [Element.text_of_kind, both]
  | case3 => simp
  | case4 first next rest ih => simp [ih]

/-- The stars around an emphasised element. -/
def stars (strong : Bool) : Text := if strong then ['*', '*'] else ['*']

/-- What was written up to a text inside elements that are open. -/
def written : List Open → Text → Text
  | [], t => t
  | o :: opens, t => written opens (o.before.flatMap Element.text ++ stars o.strong ++ t)

theorem written_append (opens : List Open) (t more : Text) :
    written opens (t ++ more) = written opens t ++ more := by
  induction opens generalizing t with
  | nil => rfl
  | cons o opens ih => rw [written, ← List.append_assoc, ih, written]

/-- An element that is closed. -/
def emphasised (o : Open) (elements : List Element) : Element :=
  { kind := if o.strong then .strong else .emphasis
    tag := if o.strong then "strong".toList else "em".toList
    markup := o.markup, children := elements }

theorem text_emphasised (o : Open) (elements : List Element) :
    (emphasised o elements).text = stars o.strong ++ elements.flatMap Element.text ++ stars o.strong := by
  have inside : (renderAll (Element.toInlines elements)).flatten = elements.flatMap Element.text :=
    renderInlines_toInlines elements
  cases strong : o.strong with
  | true =>
      simp [emphasised, strong, Element.text, Element.toInline, Node.render, Render.assemble, Kind.isList,
        inside, stars]
  | false =>
      simp [emphasised, strong, Element.text, Element.toInline, Node.render, Render.assemble, Kind.isList,
        inside, stars]

section Steps

variable {role : Nat → Role} {place : Nat} {opens : List Open} {elements : List Element} {m : Mark}
  {rest : List Piece}

theorem nest_plain (here : role place = .plain) :
    nest role place opens elements (.mark m :: rest) =
      nest role (place + 1) opens (append elements (plain [m.sign])) rest := by
  simp only [nest, here]

theorem nest_outer (here : role place = .outer) :
    nest role place opens elements (.mark m :: rest) =
      nest role (place + 1) opens (append elements (plain [])) rest := by
  simp only [nest, here]

theorem nest_opening {strong : Bool} (here : role place = .opening strong) :
    nest role place opens elements (.mark m :: rest) =
      nest role (place + 1) (⟨strong, if strong then [m.sign, m.sign] else [m.sign], elements⟩ :: opens) []
        rest := by
  simp only [nest, here]

theorem nest_closing {strong : Bool} {o : Open} (here : role place = .closing strong) :
    nest role place (o :: opens) elements (.mark m :: rest) =
      nest role (place + 1) opens (append o.before (emphasised o elements)) rest := by
  simp only [nest, here, emphasised]

end Steps

/-- What one step writes. -/
theorem Step.nest_eq {role : Nat → Role} {place : Nat} {stack stack' : List Bool} {front : List Piece}
    (step : Step role place stack front stack') {opens : List Open} (elements : List Element)
    (flags : opens.map Open.strong = stack) (rest : List Piece) :
    ∃ opens' elements', nest role place opens elements (front ++ rest) =
        nest role (place + front.length) opens' elements' rest ∧
      opens'.map Open.strong = stack' ∧
      written opens' (elements'.flatMap Element.text) =
        written opens (elements.flatMap Element.text) ++ front.flatMap Piece.text := by
  have empty : (Emphasis.plain []).text = [] := Element.text_of_kind rfl
  cases step with
  | element e =>
      refine ⟨opens, append elements e, rfl, flags, ?_⟩
      rw [text_append, written_append]
      simp [Piece.text]
  | plain m here =>
      have sign : (Emphasis.plain [m.sign]).text = [m.sign] := Element.text_of_kind rfl
      refine ⟨opens, _, nest_plain here, flags, ?_⟩
      rw [text_append, sign, written_append]
      simp [Piece.text]
  | opening star here =>
      refine ⟨_, [], nest_opening here, by rw [List.map_cons, flags], ?_⟩
      simp [written, written_append, Piece.text, star, stars]
  | closing star here =>
      obtain ⟨o, opens, rfl, flag, flags⟩ := List.map_eq_cons_iff.mp flags
      refine ⟨opens, _, nest_closing here, flags, ?_⟩
      simp [text_append, text_emphasised, written, written_append, Piece.text, star, flag, stars]
  | openingStrong star star' here there =>
      refine ⟨_, [], (nest_outer here).trans (nest_opening there), by rw [List.map_cons, flags], ?_⟩
      simp [text_append, empty, written, written_append, Piece.text, star, star', stars]
  | closingStrong star star' here there =>
      obtain ⟨o, opens, rfl, flag, flags⟩ := List.map_eq_cons_iff.mp flags
      refine ⟨opens, _, (nest_closing here).trans (nest_outer there), flags, ?_⟩
      simp [text_append, text_emphasised, empty, written, written_append, Piece.text, star, star', flag, stars]

/-- **Marks that close what they open are written again.** -/
theorem text_nest {role : Nat → Role} {place : Nat} {stack : List Bool} {pieces : List Piece}
    (closes : Closes role place stack pieces) {opens : List Open} (elements : List Element)
    (flags : opens.map Open.strong = stack) :
    (nest role place opens elements pieces).flatMap Element.text =
      written opens (elements.flatMap Element.text) ++ pieces.flatMap Piece.text := by
  induction closes generalizing opens elements with
  | nil place =>
      obtain rfl := List.map_eq_nil_iff.mp flags
      simp [nest, written]
  | @step place stack stack' front rest step after ih =>
      obtain ⟨opens', elements', next, flags', text⟩ := step.nest_eq elements flags rest
      rw [next, ih elements' flags', text, List.flatMap_append, List.append_assoc]

/-! ## One more pair -/

section Closes

variable {role role' : Nat → Role} {place : Nat} {stack stack' : List Bool} {pieces front rest : List Piece}

/-- A step looks only at the roles of the marks that it passes. -/
theorem Step.congr (step : Step role place stack front stack')
    (agree : ∀ x, place ≤ x → x < place + front.length → role' x = role x) :
    Step role' place stack front stack' := by
  cases step with
  | element e => exact .element e
  | plain m here => exact .plain m ((agree _ (Nat.le_refl _) (by simp)).trans here)
  | opening star here => exact .opening star ((agree _ (Nat.le_refl _) (by simp)).trans here)
  | closing star here => exact .closing star ((agree _ (Nat.le_refl _) (by simp)).trans here)
  | openingStrong star star' here there =>
      exact .openingStrong star star' ((agree _ (Nat.le_refl _) (by simp)).trans here)
        ((agree _ (Nat.le_succ _) (by simp)).trans there)
  | closingStrong star star' here there =>
      exact .closingStrong star star' ((agree _ (Nat.le_refl _) (by simp)).trans here)
        ((agree _ (Nat.le_succ _) (by simp)).trans there)

/-- A step from a plain mark passes nothing else and leaves open what was open. -/
theorem Step.of_plain (step : Step role place stack front stack') (here : role place = .plain) :
    front.length = 1 ∧ stack' = stack := by
  cases step with
  | element e | plain m _ => exact ⟨rfl, rfl⟩
  | opening _ other | closing _ other | openingStrong _ _ other _ | closingStrong _ _ other _ =>
      rw [here] at other
      cases other

theorem Step.length (step : Step role place stack front stack') :
    front.length = 1 ∨ front.length = 2 ∧ role (place + 1) ≠ .plain := by
  cases step with
  | element e | plain m _ | opening _ _ | closing _ _ => exact .inl rfl
  | openingStrong _ _ _ there | closingStrong _ _ _ there => exact .inr ⟨rfl, by simp [there]⟩

theorem Closes.congr (closes : Closes role place stack pieces) (agree : ∀ x, place ≤ x → role' x = role x) :
    Closes role' place stack pieces := by
  induction closes with
  | nil place => exact .nil place
  | step step after ih =>
      exact .step (step.congr fun x late _ => agree x late) (ih fun x late => agree x (by omega))

/-- Where all roles are plain, nothing is opened or closed. -/
theorem closes_plain (plain : ∀ x, place ≤ x → x < place + front.length → role x = .plain) :
    Closes role place stack (front ++ rest) ↔ Closes role (place + front.length) stack rest := by
  induction front generalizing place with
  | nil => exact Iff.rfl
  | cons piece front ih =>
      have here : role place = .plain := plain place (Nat.le_refl _) (by simp)
      have after := @ih (place + 1) fun x late early => plain x (by omega) (by rw [List.length_cons]; omega)
      rw [List.length_cons, ← Nat.add_assoc, Nat.add_right_comm, ← after, List.cons_append]
      constructor
      · intro closes
        generalize whole : piece :: (front ++ rest) = pieces at closes
        cases closes with
        | nil => cases whole
        | step step after =>
            obtain ⟨one, rfl⟩ := step.of_plain here
            obtain ⟨passed, rfl⟩ := List.length_eq_one_iff.mp one
            obtain ⟨rfl, rfl⟩ := List.cons.inj whole
            exact after
      · intro closes
        cases piece with
        | element e => exact .step (.element e) closes
        | mark m => exact .step (.plain m here) closes

/-- What stands before a plain mark may stand before anything that closes the same elements, since no step
passes a plain mark together with what is before it. -/
theorem Closes.split (closes : Closes role place stack (front ++ rest))
    (boundary : role (place + front.length) = .plain) :
    ∃ inner, Closes role (place + front.length) inner rest ∧
      ∀ (role' : Nat → Role) (rest' : List Piece), (∀ x < place + front.length, role' x = role x) →
        Closes role' (place + front.length) inner rest' → Closes role' place stack (front ++ rest') := by
  generalize whole : front ++ rest = pieces at closes
  induction closes generalizing front with
  | nil place =>
      obtain ⟨rfl, rfl⟩ := List.append_eq_nil_iff.mp whole
      exact ⟨[], .nil place, fun _ _ _ closes => closes⟩
  | @step place stack stack' passed more step after ih =>
      by_cases none : front = []
      · subst none
        obtain rfl : rest = passed ++ more := whole
        exact ⟨stack, .step step after, fun _ _ _ closes => closes⟩
      -- The first step lies before the boundary: one of two marks could only cross it at their second mark,
      -- which is not plain.
      obtain ⟨front, rfl, rfl⟩ : ∃ front', front = passed ++ front' ∧ more = front' ++ rest := by
        rcases List.append_eq_append_iff.mp whole with ⟨left, rfl, rfl⟩ | inside
        · have some := List.length_pos_iff.mpr none
          have one : left.length = 0 := by
            rcases step.length with one | ⟨two, inner⟩
            · rw [List.length_append] at one
              omega
            · rw [List.length_append] at two
              by_cases half : front.length = 1
              · rw [half] at boundary
                exact absurd boundary inner
              · omega
          obtain rfl := List.eq_nil_of_length_eq_zero one
          exact ⟨[], by simp, rfl⟩
        · exact inside
      rw [List.length_append, ← Nat.add_assoc] at boundary ⊢
      obtain ⟨inner, closes, context⟩ := ih boundary rfl
      refine ⟨inner, closes, fun role' rest' agree closes' => ?_⟩
      rw [List.append_assoc]
      exact .step (step.congr fun x _ early => agree x (by omega)) (context role' rest' agree closes')

/-- **One more pair.** Around plain marks something can be opened and closed again. -/
theorem Closes.around (opener closer : List Piece) {inside : List Piece} {flag : Bool} {a b : Nat}
    (closes : Closes role 0 [] (front ++ (opener ++ (inside ++ (closer ++ rest)))))
    (first : front.length = a) (last : a + opener.length + inside.length = b)
    (plain : ∀ x, a ≤ x → x < b + closer.length → role x = .plain) (some : closer ≠ [])
    (opens : ∀ stack, Step role' a stack opener (flag :: stack))
    (ends : ∀ stack, Step role' b (flag :: stack) closer stack)
    (agree : ∀ x, x < a ∨ a + opener.length ≤ x ∧ x < b ∨ b + closer.length ≤ x → role' x = role x) :
    Closes role' 0 [] (front ++ (opener ++ (inside ++ (closer ++ rest)))) := by
  have filled := List.length_pos_iff.mpr some
  obtain ⟨stack, here, context⟩ := closes.split
    (by rw [Nat.zero_add, first]; exact plain a (Nat.le_refl _) (by omega))
  rw [Nat.zero_add, first] at here context
  rw [closes_plain fun x late early => plain x late (by omega),
    closes_plain fun x late early => plain x (by omega) (by omega), last,
    closes_plain fun x late early => plain x (by omega) early] at here
  have after : Closes role' (b + closer.length) stack rest :=
    here.congr fun x late => agree x (.inr (.inr late))
  have between : ∀ x, a + opener.length ≤ x → x < a + opener.length + inside.length → role' x = .plain := by
    intro x late early
    rw [agree x (.inr (.inl ⟨late, by omega⟩))]
    exact plain x (by omega) (by omega)
  refine context role' _ (fun x early => agree x (.inl early)) (.step (opens stack) ?_)
  rw [closes_plain between, last]
  exact .step (ends stack) after

theorem exists_append_cons {α : Type} {l : List α} {a : Nat} {x : α} (here : l[a]? = some x) :
    ∃ front rest, l = front ++ x :: rest ∧ front.length = a := by
  obtain ⟨bound, rfl⟩ := List.getElem?_eq_some_iff.mp here
  exact ⟨l.take a, l.drop (a + 1), by rw [List.getElem_cons_drop, List.take_append_drop],
    List.length_take_of_le (Nat.le_of_lt bound)⟩

theorem getElem?_behind {α : Type} (front rest : List α) (x : α) {b : Nat} (late : front.length < b) :
    (front ++ x :: rest)[b]? = rest[b - (front.length + 1)]? := by
  rw [List.getElem?_append_right (Nat.le_of_lt late),
    show b - front.length = b - (front.length + 1) + 1 by omega, List.getElem?_cons_succ]

section Places

variable {a b : Nat} {m m' next next' : Mark} (closes : Closes role 0 [] pieces)

include closes

/-- Two stars with plain marks between them become emphasis. -/
theorem Closes.pair (less : a < b) (here : pieces[a]? = some (.mark m)) (there : pieces[b]? = some (.mark m'))
    (star : m.sign = '*') (star' : m'.sign = '*') (plain : ∀ x, a ≤ x → x ≤ b → role x = .plain)
    (opens : role' a = .opening false) (ends : role' b = .closing false)
    (agree : ∀ x, x ≠ a → x ≠ b → role' x = role x) : Closes role' 0 [] pieces := by
  obtain ⟨front, behind, rfl, first⟩ := exists_append_cons here
  rw [getElem?_behind front behind _ (by omega)] at there
  obtain ⟨inside, rest, rfl, second⟩ := exists_append_cons there
  exact closes.around [.mark m] [.mark m'] first (by rw [List.length_singleton]; omega)
    (fun x late early => plain x late (Nat.le_of_lt_succ early)) (List.cons_ne_nil _ _)
    (fun stack => .opening star opens) (fun stack => .closing star' ends)
    (fun x apart => agree x (by simp at apart; omega) (by simp at apart; omega))

/-- Two stars and two stars with plain marks between them become strong emphasis. -/
theorem Closes.pairs (less : a + 1 < b) (here : pieces[a]? = some (.mark m))
    (here' : pieces[a + 1]? = some (.mark next)) (there : pieces[b]? = some (.mark m'))
    (there' : pieces[b + 1]? = some (.mark next')) (star : m.sign = '*') (starNext : next.sign = '*')
    (star' : m'.sign = '*') (starNext' : next'.sign = '*')
    (plain : ∀ x, a ≤ x → x ≤ b + 1 → role x = .plain) (outer : role' a = .outer)
    (opens : role' (a + 1) = .opening true) (ends : role' b = .closing true) (outer' : role' (b + 1) = .outer)
    (agree : ∀ x, x ≠ a → x ≠ a + 1 → x ≠ b → x ≠ b + 1 → role' x = role x) : Closes role' 0 [] pieces := by
  obtain ⟨front, behind, rfl, first⟩ := exists_append_cons here
  rw [getElem?_behind front behind _ (by omega)] at here' there there'
  rw [first, Nat.sub_self] at here'
  obtain ⟨none, behind, rfl, zero⟩ := exists_append_cons here'
  obtain rfl := List.eq_nil_of_length_eq_zero zero
  rw [List.nil_append] at there there'
  rw [show b - (front.length + 1) = b - (front.length + 2) + 1 by omega, List.getElem?_cons_succ] at there
  rw [show b + 1 - (front.length + 1) = b - (front.length + 2) + 2 by omega, List.getElem?_cons_succ] at there'
  obtain ⟨inside, behind, rfl, second⟩ := exists_append_cons there
  rw [getElem?_behind inside behind _ (by omega), second, Nat.sub_self] at there'
  obtain ⟨none, rest, rfl, zero⟩ := exists_append_cons there'
  obtain rfl := List.eq_nil_of_length_eq_zero zero
  have last : a + [Piece.mark m, .mark next].length + inside.length = b := by
    simp only [List.length_cons, List.length_nil]
    omega
  exact closes.around [.mark m, .mark next] [.mark m', .mark next'] first last
    (fun x late early => plain x late (Nat.le_of_lt_succ early)) (List.cons_ne_nil _ _)
    (fun stack => .openingStrong star starNext outer opens)
    (fun stack => .closingStrong star' starNext' ends outer')
    (fun x apart => agree x (by simp at apart; omega) (by simp at apart; omega) (by simp at apart; omega)
      (by simp at apart; omega))

end Places

end Closes

/-! ## The roles that pairs give -/

/-- A delimiter knows where its mark stands among the pieces, and begins without a partner. -/
theorem of_mem_delimiters {place : Nat} {pieces : List Piece} {d : Delimiter}
    (member : d ∈ delimiters place pieces) :
    place ≤ d.place ∧ pieces[d.place - place]? = some (.mark d.mark) ∧ d.closer = none := by
  induction pieces generalizing place with
  | nil => cases member
  | cons piece pieces ih =>
      cases piece with
      | element e =>
          obtain ⟨late, here, free⟩ := ih member
          refine ⟨by omega, ?_, free⟩
          rw [← here, show d.place - place = d.place - (place + 1) + 1 by omega, List.getElem?_cons_succ]
      | mark m =>
          rcases List.mem_cons.mp member with rfl | member
          · exact ⟨Nat.le_refl _, by simp, rfl⟩
          · obtain ⟨late, here, free⟩ := ih member
            refine ⟨by omega, ?_, free⟩
            rw [← here, show d.place - place = d.place - (place + 1) + 1 by omega, List.getElem?_cons_succ]

theorem pairwise_delimiters (place : Nat) (pieces : List Piece) :
    (delimiters place pieces).Pairwise fun d e => d.place < e.place := by
  induction pieces generalizing place with
  | nil => exact .nil
  | cons piece pieces ih =>
      cases piece with
      | element e => exact ih (place + 1)
      | mark m => exact .cons (fun d member => (of_mem_delimiters member).1) (ih (place + 1))

/-- What the mark with an index adds to the roles of those before it: nothing, the roles of a pair, or those of
two pairs that are strong emphasis. -/
theorem roles_cases (p : Pairing) (i : Nat) :
    roles p (i + 1) = roles p i ∨
      (∃ c, p.Pairs i c ∧ roles p (i + 1) =
        ((p.get i).place, .opening false) :: ((p.get c).place, .closing false) :: roles p i) ∨
      ∃ j c, i = j + 1 ∧ p.Pairs i c ∧ p.Pairs j (c + 1) ∧ (p.get i).place = (p.get j).place + 1 ∧
        (p.get (c + 1)).place = (p.get c).place + 1 ∧ roles p (i + 1) =
          ((p.get i).place, .opening true) :: ((p.get c).place, .closing true) ::
            ((p.get j).place, .outer) :: ((p.get (c + 1)).place, .outer) :: roles p j := by
  rw [roles.eq_def]
  dsimp only
  cases closer : (p.get i).closer with
  | none => exact .inl rfl
  | some c =>
      right
      dsimp only
      split
      · rename_i strong
        have facts := strong
        simp only [Bool.and_eq_true, decide_eq_true_eq, beq_iff_eq] at facts
        obtain ⟨⟨⟨⟨positive, pairs⟩, -⟩, beside⟩, beside'⟩ := facts
        obtain ⟨j, rfl⟩ : ∃ j, i = j + 1 := ⟨i - 1, by omega⟩
        refine .inr ⟨j, c, rfl, closer, pairs, beside.symm, beside', ?_⟩
        rw [strong]
        rfl
      · rename_i single
        rw [Bool.not_eq_true] at single
        refine .inl ⟨c, closer, ?_⟩
        rw [single]
        rfl

/-- Roles come from pairs only, and each of them is that of an opening or of a closing mark. -/
theorem mem_roles {p : Pairing} {n x : Nat} {r : Role} (member : (x, r) ∈ roles p n) :
    ∃ o c, p.Pairs o c ∧ o < n ∧ (x = (p.get o).place ∨ x = (p.get c).place) := by
  induction n using Nat.strongRecOn with
  | ind n ih =>
      have earlier : ∀ m < n, (x, r) ∈ roles p m →
          ∃ o c, p.Pairs o c ∧ o < n ∧ (x = (p.get o).place ∨ x = (p.get c).place) := by
        intro m less member
        obtain ⟨o, c, pairs, before, here⟩ := ih m less member
        exact ⟨o, c, pairs, by omega, here⟩
      cases n with
      | zero => cases member
      | succ i =>
          rcases roles_cases p i with same | ⟨c, pairs, added⟩ | ⟨j, c, rfl, pairs, outer, -, -, added⟩
          · rw [same] at member
            exact earlier i (by omega) member
          · rw [added] at member
            simp only [List.mem_cons, Prod.mk.injEq] at member
            rcases member with ⟨rfl, -⟩ | ⟨rfl, -⟩ | member
            · exact ⟨i, c, pairs, by omega, .inl rfl⟩
            · exact ⟨i, c, pairs, by omega, .inr rfl⟩
            · exact earlier i (by omega) member
          · rw [added] at member
            simp only [List.mem_cons, Prod.mk.injEq] at member
            rcases member with ⟨rfl, -⟩ | ⟨rfl, -⟩ | ⟨rfl, -⟩ | ⟨rfl, -⟩ | member
            · exact ⟨j + 1, c, pairs, by omega, .inl rfl⟩
            · exact ⟨j + 1, c, pairs, by omega, .inr rfl⟩
            · exact ⟨j, c + 1, outer, by omega, .inl rfl⟩
            · exact ⟨j, c + 1, outer, by omega, .inr rfl⟩
            · exact earlier j (by omega) member

/-- What becomes of the mark at a place, as far as the first marks tell. -/
def roleIn (p : Pairing) (n place : Nat) : Role := ((roles p n).lookup place).getD .plain

theorem lookup_cons_eq (x place : Nat) (r : Role) (rest : List (Nat × Role)) :
    ((place, r) :: rest).lookup x = if x = place then some r else rest.lookup x := by
  rw [List.lookup_cons]
  by_cases same : x = place
  · simp [same]
  · simp [same, beq_eq_false_iff_ne.mpr same]

section Roles

variable {pieces : List Piece} {p : Pairing} {n : Nat} (nested : p.Nested (delimiters 0 pieces) n)

include nested

/-- A paired mark is still the mark among the pieces, though it may have lost the right to open. -/
theorem mark_at {j : Nat} (inside : j < (delimiters 0 pieces).length) :
    ∃ m, pieces[(p.get j).place]? = some (.mark m) ∧ m.sign = (p.get j).mark.sign ∧
      ((p.get j).mark.canOpen = true → m.canOpen = true) := by
  have here : (delimiters 0 pieces).toArray.getD j .absent = (delimiters 0 pieces)[j] := by
    simp [Array.getD_eq_getD_getElem?, inside]
  obtain ⟨-, found, -⟩ := of_mem_delimiters (List.getElem_mem inside)
  refine ⟨(delimiters 0 pieces)[j].mark, ?_, ?_, fun opens => ?_⟩
  · rw [nested.place, here]
    exact found
  · rw [nested.sign, here]
  · rw [← here]
    exact nested.opener j opens

theorem place_lt {j k : Nat} (less : j < k) (inside : k < (delimiters 0 pieces).length) :
    (p.get j).place < (p.get k).place := by
  have before : j < (delimiters 0 pieces).length := by omega
  have sorted := List.pairwise_iff_getElem.mp (pairwise_delimiters 0 pieces) j k before inside less
  rw [nested.place, nested.place]
  simpa [Array.getD_eq_getD_getElem?, inside, before] using sorted

/-- Between the marks of a pair, and at them, the pairs that open earlier give no roles. -/
theorem roleIn_eq_plain (all : n = (delimiters 0 pieces).length) {i c : Nat} (pairs : p.Pairs i c) {x : Nat}
    (from_ : (p.get i).place ≤ x) (upTo : x ≤ (p.get c).place) : roleIn p i x = .plain := by
  unfold roleIn
  cases found : (roles p i).lookup x with
  | none => rfl
  | some r =>
      exfalso
      obtain ⟨above, below, split, -⟩ := List.lookup_eq_some_iff.mp found
      obtain ⟨o, e, other, before, here⟩ := @mem_roles p i x r (by rw [split]; simp)
      obtain ⟨less, bound⟩ := nested.order i c pairs
      obtain ⟨less', bound'⟩ := nested.order o e other
      rcases here with rfl | rfl
      · have := place_lt nested before (by omega)
        omega
      · -- The other pair would end inside this one, although it begins before it.
        have late : i ≤ e := by
          by_contra early
          have := place_lt nested (Nat.lt_of_not_le early) (by omega)
          omega
        have early : e ≤ c := by
          by_contra late
          have := place_lt nested (Nat.lt_of_not_le late) (by omega)
          omega
        rcases Nat.lt_or_eq_of_le late with inside | same
        · have := nested.inside o e i c other pairs before inside
          omega
        · subst same
          have canOpen := nested.opens i c pairs
          rw [nested.closes o i other] at canOpen
          cases canOpen

/-- **The roles that pairs of stars give** close what they open. -/
theorem closes_roles (all : n = (delimiters 0 pieces).length)
    (stars : ∀ m, .mark m ∈ pieces → m.canOpen = true → m.sign = '*') {k : Nat} (bound : k ≤ n) :
    Closes (roleIn p k) 0 [] pieces := by
  -- A mark of a pair is a star at its place among the pieces.
  have opener : ∀ {o c}, p.Pairs o c → ∃ m, pieces[(p.get o).place]? = some (.mark m) ∧ m.sign = '*' := by
    intro o c pairs
    obtain ⟨less, early⟩ := nested.order o c pairs
    obtain ⟨m, here, sign, opens⟩ := mark_at nested (show o < _ by omega)
    exact ⟨m, here, stars m (List.mem_of_getElem? here) (opens (nested.opens o c pairs))⟩
  have closer : ∀ {o c}, p.Pairs o c → ∃ m, pieces[(p.get c).place]? = some (.mark m) ∧ m.sign = '*' := by
    intro o c pairs
    obtain ⟨less, early⟩ := nested.order o c pairs
    obtain ⟨first, there, sign, opens⟩ := mark_at nested (show o < _ by omega)
    obtain ⟨m, here, sign', -⟩ := mark_at nested (show c < _ by omega)
    refine ⟨m, here, ?_⟩
    rw [sign', ← nested.signs o c pairs, ← sign]
    exact stars first (List.mem_of_getElem? there) (opens (nested.opens o c pairs))
  -- Strong emphasis takes two pairs at a time, so the induction may go down by two.
  induction k using Nat.strongRecOn with
  | ind k ih =>
      cases k with
      | zero =>
          have whole := @closes_plain (roleIn p 0) 0 [] pieces [] fun _ _ _ => rfl
          rw [List.append_nil] at whole
          exact whole.mpr (.nil _)
      | succ i =>
          rcases roles_cases p i with same | ⟨c, pairs, added⟩ | ⟨j, c, rfl, pairs, outer, beside, beside', added⟩
          · have before := ih i (by omega) (by omega)
            rwa [show roleIn p (i + 1) = roleIn p i by unfold roleIn; rw [same]]
          · have before := ih i (by omega) (by omega)
            obtain ⟨less, early⟩ := nested.order i c pairs
            have apart := place_lt nested less (by omega)
            obtain ⟨m, here, star⟩ := opener pairs
            obtain ⟨m', there, star'⟩ := closer pairs
            refine before.pair apart here there star star' (fun x => roleIn_eq_plain nested all pairs) ?_ ?_ ?_
            · simp [roleIn, added]
            · simp [roleIn, added, lookup_cons_eq, (Nat.ne_of_lt apart).symm]
            · intro x other other'
              simp [roleIn, added, lookup_cons_eq, other, other']
          · have before := ih j (by omega) (by omega)
            obtain ⟨less, early⟩ := nested.order _ _ pairs
            obtain ⟨-, early'⟩ := nested.order _ _ outer
            have apart := place_lt nested less (by omega)
            obtain ⟨m, here, star⟩ := opener outer
            obtain ⟨next, here', starNext⟩ := opener pairs
            obtain ⟨m', there, star'⟩ := closer pairs
            obtain ⟨next', there', starNext'⟩ := closer outer
            have plain := @roleIn_eq_plain pieces p n nested all j (c + 1) outer
            rw [beside] at here' apart
            rw [beside'] at there' plain
            rw [beside, beside'] at added
            generalize (p.get j).place = a at *
            generalize (p.get c).place = b at *
            refine before.pairs apart here here' there there' star starNext star' starNext' (fun x => plain)
              ?_ ?_ ?_ ?_ ?_
            · simp [roleIn, added, lookup_cons_eq, show a ≠ b by omega]
            · simp [roleIn, added]
            · simp [roleIn, added, lookup_cons_eq, show b ≠ a + 1 by omega]
            · simp [roleIn, added, lookup_cons_eq, show b + 1 ≠ a by omega, show b ≠ a by omega]
            · intro x first second third fourth
              simp [roleIn, added, lookup_cons_eq, first, second, third, fourth]

end Roles

/-- **Emphasis keeps the text of a line**, if what can open emphasis in it is a star. -/
theorem text_resolve {pieces : List Piece} (stars : ∀ m, .mark m ∈ pieces → m.canOpen = true → m.sign = '*') :
    (resolve pieces).flatMap Element.text = pieces.flatMap Piece.text := by
  have nested := Pairing.nested_ofDelimiters (delimiters 0 pieces) fun d member =>
    (of_mem_delimiters member).2.2
  exact text_nest (closes_roles nested rfl stars (Nat.le_refl _)) [] rfl

end Emphasis

end Markdown

end DocComment
