/- Plain numerals and the status codes that they give. One or more of the digits 0 to 9 are a number in
decimal digits behind some zeros, and of one number only (`IsDigits.spells`, `Spells.eq`). The reader of
integers takes more than these texts: signs, low lines between digits, digits of other scripts. A text
of plain digits it reads as the number that is spelled there, unless there are too many of them
(`toInteger_of_isDigits`); so a text of plain digits is never malformed.

A status code is the integer read from the trimmed text if that matches the pattern of a plain number, and
zero otherwise. The pattern stops before a newline at the end, but a trimmed text has none
(`isSome_plainNumber_trim`). Together this says for which texts there is a status code, and which one
(`statusCode_domain`). -/
import DocComment.Proofs.RenderedBraces
import DocComment.Proofs.StatusCode
import DocComment.Text.Pattern

namespace DocComment

set_option autoImplicit false

namespace Text

/-! ## Digits and the number that they spell -/

/-- A text spells a number: it is the number in decimal digits, possibly behind zeros. -/
def Spells (t : Text) (n : Nat) : Prop := ∃ zeros, t = List.replicate zeros '0' ++ ofNat n

theorem ofNat_digit {c : Char} (digit : isAsciiDigit c = true) : ofNat (c.toNat - 48) = [c] := by
  obtain ⟨low, high⟩ := bounds_of_digit digit
  have small : c.toNat - 48 < 10 := by omega
  have same : Nat.digitChar (c.toNat - 48) = c := by
    apply Char.toNat_inj.mp
    rw [Nat.toNat_digitChar_of_lt_ten small]
    omega
  rw [ofNat, Nat.toDigits_of_lt_base small, same]

variable {t : Text} {n : Nat}

/-- One more digit after a numeral: the number is ten times as large, plus the digit. If it was zero, its
last digit becomes one more zero in front. -/
theorem Spells.concat {c : Char} (spells : Spells t n) (digit : isAsciiDigit c = true) :
    Spells (t ++ [c]) (10 * n + (c.toNat - 48)) := by
  obtain ⟨zeros, rfl⟩ := spells
  have high := (bounds_of_digit digit).2
  rw [← ofNat_digit digit, List.append_assoc]
  by_cases zero : n = 0
  · refine ⟨zeros + 1, ?_⟩
    rw [zero, Nat.mul_zero, Nat.zero_add, List.replicate_succ', List.append_assoc]
    rfl
  · refine ⟨zeros, ?_⟩
    rw [ofNat, ofNat, ofNat,
      Nat.toDigits_append_toDigits (by decide) (Nat.pos_of_ne_zero zero) (by omega)]

/-- Digits spell the number that is evaluated from them. -/
theorem IsDigits.spells (digits : t.IsDigits) : Spells t (Nat.ofDigitChars 10 t 0) := by
  obtain ⟨filled, all⟩ := digits
  induction t using List.reverseRecOn with
  | nil => exact absurd rfl filled
  | append_singleton front c ih =>
      rw [List.all_append, Bool.and_eq_true] at all
      have digit : isAsciiDigit c = true := by simpa using all.2
      have value : Nat.ofDigitChars 10 (front ++ [c]) 0 =
          10 * Nat.ofDigitChars 10 front 0 + (c.toNat - 48) := by
        rw [Nat.ofDigitChars_append, Nat.ofDigitChars_cons, Nat.ofDigitChars_nil]
        rfl
      rw [value]
      by_cases first : front = []
      · rw [first, Nat.ofDigitChars_nil, Nat.mul_zero, Nat.zero_add]
        exact ⟨0, (ofNat_digit digit).symm⟩
      · exact (ih first all.1).concat digit

theorem Spells.isDigits (spells : Spells t n) : t.IsDigits := by
  obtain ⟨zeros, rfl⟩ := spells
  refine ⟨List.append_ne_nil_of_right_ne_nil _ Nat.toDigits_ne_nil, List.all_eq_true.mpr ?_⟩
  intro c member
  rcases List.mem_append.mp member with zero | digit
  · rw [List.eq_of_mem_replicate zero]
    decide
  · exact Markdown.isAsciiDigit_of_mem_ofNat digit

theorem Spells.value (spells : Spells t n) : Nat.ofDigitChars 10 t 0 = n := by
  obtain ⟨zeros, rfl⟩ := spells
  rw [Nat.ofDigitChars_append, Nat.ofDigitChars_replicate_zero, Nat.mul_zero, ofNat,
    Nat.ofDigitChars_ten_toDigits]

/-- A text spells one number only. -/
theorem Spells.eq {m : Nat} (spells : Spells t n) (other : Spells t m) : m = n :=
  other.value.symm.trans spells.value

/-! ## Plain digits as an integer -/

theorem decimalValue?_digit {c : Char} (digit : isAsciiDigit c = true) :
    decimalValue? c = some (c.toNat - 48) := by
  have high := (bounds_of_digit digit).2
  rw [decimalValue?, if_pos (by omega), if_pos digit]

/-- Plain digits are read to the end, each with its own value. -/
theorem numeral?_digits (due : Bool) (all : t.all isAsciiDigit = true) (filled : due = true → t ≠ []) :
    numeral? due t = some (t.map fun c => c.toNat - 48, []) := by
  induction t generalizing due with
  | nil =>
      cases due with
      | true => exact absurd rfl (filled rfl)
      | false => rfl
  | cons c rest ih =>
      rw [List.all_cons, Bool.and_eq_true] at all
      have below := ih false all.2 (by simp)
      rw [numeral?, decimalValue?_digit all.1]
      simp only [below, Option.map_some, List.map_cons]

theorem IsDigits.sign (digits : t.IsDigits) : Text.sign t = (false, t) := by
  cases t with
  | nil => rfl
  | cons c rest =>
      have digit := digits.digit List.mem_cons_self
      have minus : c ≠ '-' := Markdown.ListMark.ne_of_digit digit (by decide)
      have plus : c ≠ '+' := Markdown.ListMark.ne_of_digit digit (by decide)
      unfold Text.sign
      split <;> simp_all

theorem digitsValue_digits (t : Text) :
    digitsValue (t.map fun c => c.toNat - 48) = Nat.ofDigitChars 10 t 0 := by
  rw [digitsValue, List.foldl_map, Nat.ofDigitChars_eq_foldl]
  rfl

/-- **The integer of plain digits is the number that they spell.** They are refused only for their
length. -/
theorem toInteger_of_isDigits (digits : t.IsDigits) :
    toInteger t =
      if digitLimit < t.length then .error (.tooLong t.length) else .ok (Nat.ofDigitChars 10 t 0) := by
  have read := numeral?_digits true digits.2 fun _ => digits.1
  simp only [toInteger, digits.integerCore, digits.sign, read, List.length_map, digitsValue_digits,
    List.isEmpty_nil, if_true, Bool.false_eq_true, if_false]

end Text

/-! ## The pattern of a plain number -/

namespace Pattern

section

variable {accepts : Char → Bool} {t rest : Text}

/-- A run that takes the first character goes on behind it. -/
theorem exists_run_cons_iff {c : Char} :
    (∃ front, c :: t = front ++ rest ∧ front ≠ [] ∧ front.all accepts = true) ↔
      accepts c = true ∧ ∃ front, t = front ++ rest ∧ front.all accepts = true := by
  constructor
  · rintro ⟨front, split, filled, all⟩
    cases front with
    | nil => exact absurd rfl filled
    | cons d front =>
        obtain ⟨rfl, rfl⟩ := List.cons.inj split
        rw [List.all_cons, Bool.and_eq_true] at all
        exact ⟨all.1, front, rfl, all.2⟩
  · rintro ⟨accepted, front, rfl, all⟩
    exact ⟨c :: front, rfl, List.cons_ne_nil _ _, by rw [List.all_cons, accepted, all]; rfl⟩

/-- Every way to stop within a run of accepted characters is among the remainders. -/
theorem mem_run_iff :
    rest ∈ run accepts t ↔ ∃ front, t = front ++ rest ∧ front.all accepts = true := by
  induction t with
  | nil => simp [run]
  | cons c t ih =>
      have empty : (∃ front, c :: t = front ++ rest ∧ front.all accepts = true) ↔
          rest = c :: t ∨ ∃ front, c :: t = front ++ rest ∧ front ≠ [] ∧ front.all accepts = true := by
        constructor
        · rintro ⟨front, split, all⟩
          by_cases filled : front = []
          · rw [filled] at split
            exact .inl split.symm
          · exact .inr ⟨front, split, filled, all⟩
        · rintro (rfl | ⟨front, split, -, all⟩)
          · exact ⟨[], rfl, rfl⟩
          · exact ⟨front, split, all⟩
      rw [empty, exists_run_cons_iff, ← ih, run]
      split <;> simp_all [or_comm]

theorem mem_run1_iff :
    rest ∈ run1 accepts t ↔ ∃ front, t = front ++ rest ∧ front ≠ [] ∧ front.all accepts = true := by
  cases t with
  | nil => simp [run1, andThen, one]
  | cons c t =>
      rw [exists_run_cons_iff, ← mem_run_iff, run1, andThen, one]
      split <;> simp_all

end

/-- The end of the text, or the newline at its end. -/
def stop : Pattern := fun t => if t = [] ∨ t = ['\n'] then [t] else []

/-- One or more digits up to the end. -/
def plainNumber : Pattern := andThen (run1 isAsciiDigit) stop

theorem mem_plainNumber_iff {t rest : Text} :
    rest ∈ plainNumber t ↔ (rest = [] ∨ rest = ['\n']) ∧ ∃ front, t = front ++ rest ∧ front.IsDigits := by
  have ends : ∀ u, rest ∈ stop u ↔ rest = u ∧ (rest = [] ∨ rest = ['\n']) := by
    intro u
    unfold stop
    split <;> simp_all
  simp only [plainNumber, andThen, List.mem_flatMap, ends, mem_run1_iff]
  constructor
  · rintro ⟨_, run, rfl, stops⟩
    exact ⟨stops, run⟩
  · rintro ⟨stops, run⟩
    exact ⟨rest, run, rfl, stops⟩

/-- **A trimmed text matches the pattern exactly if it is plain digits.** The newline before which the pattern
may stop is a blank. -/
theorem isSome_plainNumber_trim (code : Text) :
    (plainNumber.match? (Text.trim code)).isSome = true ↔ (Text.trim code).IsDigits := by
  rw [match?, List.isSome_head?]
  constructor
  · intro found
    obtain ⟨rest, member⟩ := List.exists_mem_of_ne_nil _ found
    obtain ⟨rfl | rfl, front, split, digits⟩ := mem_plainNumber_iff.mp member
    · rw [split, List.append_nil]
      exact digits
    · have last := (Text.trim_eq_self_iff.mp (Text.trim_trim code)).2
      rw [split, List.getLast?_concat] at last
      exact absurd last (by decide)
  · intro digits
    exact List.ne_nil_of_mem (mem_plainNumber_iff.mpr ⟨.inl rfl, _, (List.append_nil _).symm, digits⟩)

end Pattern

/-! ## Status codes -/

section

variable {code : Text}

theorem isNumeral_iff : isNumeral code = true ↔ (Text.trim code).IsDigits := decide_eq_true_iff

theorem isOverlong_iff :
    isOverlong code = true ↔ (Text.trim code).IsDigits ∧ digitLimit < (Text.trim code).length := by
  rw [isOverlong, Bool.and_eq_true, isNumeral_iff, decide_eq_true_iff]

/-- The value of a numeral is the number that is spelled there. -/
theorem statusValue_of_spells {n : Nat} (spells : (Text.trim code).Spells n) : statusValue code = n := by
  rw [statusValue, if_pos (isNumeral_iff.mpr spells.isDigits), Text.digitsValue_digits, spells.value]

theorem statusValue_of_other (other : ¬ (Text.trim code).IsDigits) : statusValue code = 0 := by
  rw [statusValue, if_neg (isNumeral_iff.not.mpr other)]

theorem statusCode_of_overlong (overlong : isOverlong code = true) :
    statusCode code = .error (.tooLong (Text.trim code).length) := by
  rw [statusCode_eq, checked, List.find?_cons_of_pos overlong]

theorem statusCode_of_short (short : ¬ isOverlong code = true) :
    statusCode code = .ok (statusValue code) := by
  rw [statusCode_eq, checked_eq_ok_iff, List.forall_mem_singleton]
  exact ⟨Bool.eq_false_iff.mpr short, rfl⟩

theorem statusCode_of_spells {n : Nat} (spells : (Text.trim code).Spells n)
    (short : (Text.trim code).length ≤ digitLimit) : statusCode code = .ok n := by
  have fits : ¬ isOverlong code = true := fun overlong => by
    have long := (isOverlong_iff.mp overlong).2
    omega
  rw [statusCode_of_short fits, statusValue_of_spells spells]

theorem statusCode_of_long (digits : (Text.trim code).IsDigits)
    (long : digitLimit < (Text.trim code).length) :
    statusCode code = .error (.tooLong (Text.trim code).length) :=
  statusCode_of_overlong (isOverlong_iff.mpr ⟨digits, long⟩)

theorem statusCode_of_other (other : ¬ (Text.trim code).IsDigits) : statusCode code = .ok 0 := by
  rw [statusCode_of_short fun overlong => other (isOverlong_iff.mp overlong).1, statusValue_of_other other]

theorem statusCode_ne_malformed (code literal : Text) :
    statusCode code ≠ .error (.malformed literal) := by
  by_cases overlong : isOverlong code = true
  · simp [statusCode_of_overlong overlong]
  · simp [statusCode_of_short overlong]

end

/-- A status code is an integer where the trimmed text is plain digits. -/
theorem statusCode_eq_toInteger (code : Text) :
    statusCode code =
      if (Text.trim code).IsDigits then Text.toInteger (Text.trim code) else .ok 0 := by
  by_cases digits : (Text.trim code).IsDigits
  · rw [if_pos digits, Text.toInteger_of_isDigits digits]
    split
    · exact statusCode_of_long digits ‹_›
    · exact statusCode_of_spells digits.spells (Nat.not_lt.mp ‹_›)
  · rw [if_neg digits, statusCode_of_other digits]

/-- **The texts with a status code.** Plain digits between blanks give the one number that they spell, if
there are at most 4300 of them; more are refused for their number. Every other text gives zero. A text that
the pattern of a plain number lets through is read as an integer and is never malformed. Every number can be
read again from its decimal digits, behind zeros and between blanks. -/
theorem statusCode_domain :
    (∀ code : Text,
      ((Text.trim code).IsDigits → (Text.trim code).length ≤ 4300 →
        ∃ n : Nat, statusCode code = .ok n ∧ ∀ m, (Text.trim code).Spells m ↔ m = n) ∧
      ((Text.trim code).IsDigits → 4300 < (Text.trim code).length →
        statusCode code = .error (.tooLong (Text.trim code).length)) ∧
      (¬ (Text.trim code).IsDigits → statusCode code = .ok 0) ∧
      (∀ literal, statusCode code ≠ .error (.malformed literal)) ∧
      statusCode code =
        if (Pattern.plainNumber.match? (Text.trim code)).isSome then Text.toInteger (Text.trim code)
        else .ok 0) ∧
    ∀ (lead trail : Text) (zeros n : Nat), lead.all isBlank = true → trail.all isBlank = true →
      zeros + (Text.ofNat n).length ≤ 4300 →
      statusCode (lead ++ ((List.replicate zeros '0' ++ Text.ofNat n) ++ trail)) = .ok n := by
  constructor
  · intro code
    refine ⟨fun digits short => ?_, statusCode_of_long, statusCode_of_other,
      statusCode_ne_malformed code, ?_⟩
    · refine ⟨_, statusCode_of_spells digits.spells short, fun m => ⟨digits.spells.eq, ?_⟩⟩
      rintro rfl
      exact digits.spells
    · rw [statusCode_eq_toInteger]
      simp only [Pattern.isSome_plainNumber_trim]
  · intro lead trail zeros n blankLead blankTrail short
    have spells : Text.Spells (List.replicate zeros '0' ++ Text.ofNat n) n := ⟨zeros, rfl⟩
    have core := (Text.trim_surround blankLead blankTrail _).trans spells.isDigits.trim
    apply statusCode_of_spells
    · rw [core]
      exact spells
    · rw [core, List.length_append, List.length_replicate]
      exact short

/-- Zeros and blanks around a code do not count; a sign or a digit of another script makes it no code,
although there is an integer; and 4301 digits are too many. -/
theorem statusCode_domain_borderlineCodes :
    statusCode "\u00a0\t007\n".toList = .ok 7 ∧
      (¬ (Text.trim "+7".toList).IsDigits ∧ statusCode "+7".toList = .ok 0 ∧
        Text.toInteger "+7".toList = .ok 7) ∧
      (¬ (Text.trim "٧".toList).IsDigits ∧ statusCode "٧".toList = .ok 0 ∧
        Text.toInteger "٧".toList = .ok 7) ∧
      (Text.trim (List.replicate 4301 '1')).IsDigits ∧
      statusCode (List.replicate 4301 '1') = .error (.tooLong 4301) := by
  obtain ⟨domain, printed⟩ := statusCode_domain
  have padded := printed "\u00a0\t".toList ['\n'] 2 7 (by decide) (by decide) (by decide)
  have digits : Text.IsDigits (List.replicate 4301 '1') :=
    Text.isDigits_replicate (by decide) (by decide)
  have long := (domain (List.replicate 4301 '1')).2.1
  rw [digits.trim, List.length_replicate] at long
  have signed : ¬ (Text.trim "+7".toList).IsDigits := by decide
  have foreign : ¬ (Text.trim "٧".toList).IsDigits := by decide
  refine ⟨padded, ⟨signed, (domain _).2.2.1 signed, by decide⟩,
    ⟨foreign, (domain _).2.2.1 foreign, by decide⟩, ?_, long digits (by decide)⟩
  rw [digits.trim]
  exact digits

end DocComment
