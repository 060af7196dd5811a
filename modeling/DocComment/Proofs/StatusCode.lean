/- Plain digits, status codes and the one way in which reading a status code fails. A text whose trimmed form
is one or more of the digits 0 to 9 (`IsDigits`) is a numeral and has its value, every other text counts as
zero; but a numeral with more digits than the limit is refused. `checked` goes on with a computation unless
one of some texts is refused; the first such text then names the fault. Texts that are checked one after the
other are checked together (`checked_append`). -/
import DocComment.Proofs.Blanks
import DocComment.Tag.Harvest

namespace DocComment

set_option autoImplicit false

namespace Text

/-- One or more of the digits 0 to 9. -/
def IsDigits (t : Text) : Prop := t ≠ [] ∧ t.all isAsciiDigit = true

instance (t : Text) : Decidable t.IsDigits := inferInstanceAs (Decidable (_ ∧ _))

theorem isDigits_replicate {c : Char} (digit : isAsciiDigit c = true) {count : Nat} (some : 0 < count) :
    IsDigits (List.replicate count c) := by
  refine ⟨List.ne_nil_of_length_pos (by rwa [List.length_replicate]), List.all_eq_true.mpr ?_⟩
  intro d member
  rwa [List.eq_of_mem_replicate member]

section

variable {t : Text} (digits : t.IsDigits)

include digits

theorem IsDigits.digit {c : Char} (member : c ∈ t) : isAsciiDigit c = true :=
  List.all_eq_true.mp digits.2 c member

theorem IsDigits.solid {c : Char} (member : c ∈ t) : isBlank c = false :=
  isBlank_eq_false_of_digit (digits.digit member)

theorem IsDigits.filled : t.all isBlank = false := by
  obtain ⟨c, member⟩ := List.exists_mem_of_ne_nil t digits.1
  exact List.all_eq_false.mpr ⟨c, member, by simp [digits.solid member]⟩

theorem IsDigits.trim : Text.trim t = t := by
  rw [trim_eq_self_iff, Option.any_eq_false, Option.any_eq_false]
  constructor
  · intro c first
    simp [digits.solid (List.mem_of_mem_head? first)]
  · intro c last
    simp [digits.solid (List.mem_of_mem_getLast? last)]

/-- Digits stay as they are where the blanks around an integer are dropped. -/
theorem IsDigits.integerCore : Text.integerCore t = t := by
  have solid : ∀ c ∈ t, isIntegerBlank c = false := by
    intro c member
    rw [isIntegerBlank, digits.solid member, Bool.false_and]
  have start : t.dropWhile isIntegerBlank = t := by
    rw [List.dropWhile_eq_self_iff]
    intro filled
    simp [solid _ (List.getElem_mem filled)]
  rw [Text.integerCore, start, dropRightWhile_eq, List.rdropWhile_eq_self_iff]
  intro filled
  simp [solid _ (List.getLast_mem filled)]

end

end Text

def isNumeral (code : Text) : Bool := decide (Text.trim code).IsDigits

/-- Whether a text is a numeral with more digits than the limit. -/
def isOverlong (code : Text) : Bool :=
  isNumeral code && decide (digitLimit < (Text.trim code).length)

/-- The value of a text as a status code: zero unless it is a numeral. -/
def statusValue (code : Text) : Int :=
  if isNumeral code then Text.digitsValue ((Text.trim code).map fun c => c.toNat - 48) else 0

/-- A computation that goes on unless one of the texts is an overlong numeral. -/
def checked {α : Type} (codes : List Text) (next : Except IntegerFault α) :
    Except IntegerFault α :=
  match codes.find? isOverlong with
  | some code => .error (.tooLong (Text.trim code).length)
  | none => next

@[simp] theorem checked_nil {α : Type} (next : Except IntegerFault α) : checked [] next = next := rfl

theorem checked_append {α : Type} (codes more : List Text) (next : Except IntegerFault α) :
    checked (codes ++ more) next = checked codes (checked more next) := by
  unfold checked
  rw [List.find?_append]
  cases codes.find? isOverlong <;> rfl

theorem checked_bind {α β : Type} (codes : List Text) (next : Except IntegerFault α)
    (f : α → Except IntegerFault β) : checked codes next >>= f = checked codes (next >>= f) := by
  unfold checked
  cases codes.find? isOverlong <;> rfl

theorem checked_map {α β : Type} (codes : List Text) (next : Except IntegerFault α) (f : α → β) :
    (checked codes next).map f = checked codes (next.map f) := by
  unfold checked
  cases codes.find? isOverlong <;> rfl

/-- The texts are checked one after the other, and the first one that is refused stops the rest. -/
theorem checked_eq_ok_iff {α : Type} {codes : List Text} {next : Except IntegerFault α} {result : α} :
    checked codes next = .ok result ↔
      (∀ code ∈ codes, isOverlong code = false) ∧ next = .ok result := by
  unfold checked
  cases found : codes.find? isOverlong with
  | none =>
      have short : ∀ code ∈ codes, isOverlong code = false := by simpa using found
      exact ⟨fun same => ⟨short, same⟩, fun both => both.2⟩
  | some code =>
      have overlong := List.find?_some found
      have member := List.mem_of_find?_eq_some found
      simp only [reduceCtorEq, false_iff, not_and]
      intro short
      simp [short code member] at overlong

/-- The digits are counted before they are read, so an overlong numeral is refused and any other text has a
value. -/
theorem statusCode_eq (code : Text) : statusCode code = checked [code] (.ok (statusValue code)) := by
  have guard : (!(Text.trim code).isEmpty && (Text.trim code).all isAsciiDigit) = isNumeral code := by
    rw [isNumeral, Bool.eq_iff_iff, decide_eq_true_iff]
    simp [Text.IsDigits]
  unfold checked statusCode
  rw [List.find?_singleton, isOverlong, statusValue]
  simp only [guard]
  cases isNumeral code with
  | false => rfl
  | true =>
      by_cases long : digitLimit < (Text.trim code).length
      · simp [long]
      · simp [long]

end DocComment
