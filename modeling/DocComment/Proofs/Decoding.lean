/- Decoding of UTF-8. Bytes are decoded to a text exactly if they are its encoding (`decode_eq_ok_iff`), so
what is refused is what encodes no text. -/
import DocComment.Files.Source
import Mathlib.Data.List.Forall2

namespace DocComment.Utf8

set_option autoImplicit false

def encodeChar (c : Char) : List Nat := (String.utf8EncodeChar c).map UInt8.toNat

def encode (t : Text) : List Nat := t.flatMap encodeChar

/-- Whether bytes lie within bounds, one byte for each. -/
def Fits : List (Nat × Nat) → List Nat → Prop :=
  List.Forall₂ fun bound byte => bound.1 ≤ byte ∧ byte ≤ bound.2

/-- The code point of a character whose first byte has a share in it. -/
def codeOf (share : Nat) (tail : List Nat) : Nat :=
  tail.foldl (fun code byte => code * 64 + (byte - 0x80)) share

theorem codeOf_cons (share byte : Nat) (tail : List Nat) :
    codeOf share (byte :: tail) = codeOf (share * 64 + (byte - 0x80)) tail := by
  rw [codeOf, List.foldl_cons, codeOf]

/-- By induction on the bounds: each byte that fits adds its six bits to the code point. -/
theorem continue?_eq_ok_iff (share taken : Nat) (bounds : List (Nat × Nat)) (bytes : List Nat)
    (code : Nat) (rest : List Nat) :
    continue? share taken bounds bytes = .ok (code, rest) ↔
      ∃ tail, bytes = tail ++ rest ∧ Fits bounds tail ∧ codeOf share tail = code := by
  induction bounds generalizing share taken bytes with
  | nil =>
      simp only [continue?, Except.ok.injEq, Prod.mk.injEq, Fits, List.forall₂_nil_left_iff]
      constructor
      · rintro ⟨rfl, rfl⟩
        exact ⟨[], rfl, rfl, rfl⟩
      · rintro ⟨tail, rfl, rfl, rfl⟩
        exact ⟨rfl, rfl⟩
  | cons bound bounds ih =>
      cases bytes with
      | nil =>
          simp only [continue?, reduceCtorEq, false_iff]
          rintro ⟨tail, split, fits, -⟩
          obtain ⟨rfl, -⟩ := List.append_eq_nil_iff.mp split.symm
          cases fits
      | cons byte bytes =>
          by_cases inside : bound.1 ≤ byte ∧ byte ≤ bound.2
          · simp only [continue?, if_pos inside, ih]
            constructor
            · rintro ⟨tail, rfl, fits, rfl⟩
              exact ⟨byte :: tail, rfl, .cons inside fits, codeOf_cons ..⟩
            · rintro ⟨tail, split, fits, value⟩
              cases fits with
              | cons first fits =>
                  obtain ⟨rfl, rfl⟩ := List.cons.inj split
                  rw [codeOf_cons] at value
                  exact ⟨_, rfl, fits, value⟩
          · simp only [continue?, if_neg inside, reduceCtorEq, false_iff]
            rintro ⟨tail, split, fits, -⟩
            cases fits with
            | cons first fits =>
                obtain ⟨rfl, -⟩ := List.cons.inj split
                exact inside first

/-- Code points are below U+110000 and leave out the surrogates. -/
theorem toNat_valid (c : Char) : c.toNat < 0xD800 ∨ 0xDFFF < c.toNat ∧ c.toNat < 0x110000 := c.valid

/-- The bytes of a character by its code point, for each of the four lengths. -/
theorem encodeChar_eq (c : Char) :
    encodeChar c =
      if c.toNat < 0x80 then [c.toNat]
      else if c.toNat < 0x800 then [c.toNat / 64 + 0xC0, c.toNat % 64 + 0x80]
      else if c.toNat < 0x10000 then
        [c.toNat / 4096 + 0xE0, c.toNat / 64 % 64 + 0x80, c.toNat % 64 + 0x80]
      else
        [c.toNat / 262144 + 0xF0, c.toNat / 4096 % 64 + 0x80, c.toNat / 64 % 64 + 0x80,
          c.toNat % 64 + 0x80] := by
  have valid := toNat_valid c
  have value : c.val.toNat = c.toNat := rfl
  simp only [encodeChar, String.utf8EncodeChar, value]
  split_ifs <;>
    simp only [List.map_cons, List.map_nil, UInt8.toNat_ofNat', List.cons.injEq, and_true] <;> omega

/-- First bytes with their share of the code point and the bounds of the bytes that follow. After the least
and the greatest first byte of a length the second byte is bounded more closely, and after the one that
begins the surrogates. -/
inductive Lead (first share : Nat) : List (Nat × Nat) → Prop
  | one (small : first < 0x80) (whole : share = first) : Lead first share []
  | two (least : 0xC2 ≤ first) (greatest : first < 0xE0) (part : first = share + 0xC0) :
      Lead first share [(0x80, 0xBF)]
  | three {low high : Nat} (least : 0xE0 ≤ first) (greatest : first < 0xF0)
      (part : first = share + 0xE0)
      (atLeast : first = 0xE0 ∧ low = 0xA0 ∨ first ≠ 0xE0 ∧ low = 0x80)
      (atMost : first = 0xED ∧ high = 0x9F ∨ first ≠ 0xED ∧ high = 0xBF) :
      Lead first share [(low, high), (0x80, 0xBF)]
  | four {low high : Nat} (least : 0xF0 ≤ first) (greatest : first ≤ 0xF4)
      (part : first = share + 0xF0)
      (atLeast : first = 0xF0 ∧ low = 0x90 ∨ first ≠ 0xF0 ∧ low = 0x80)
      (atMost : first = 0xF4 ∧ high = 0x8F ∨ first ≠ 0xF4 ∧ high = 0xBF) :
      Lead first share [(low, high), (0x80, 0xBF), (0x80, 0xBF)]

/-- One case for each row of the table of first bytes. -/
theorem Lead.of_lead? {first share : Nat} {bounds : List (Nat × Nat)}
    (lead : lead? first = some (share, bounds)) : Lead first share bounds := by
  unfold lead? at lead
  dsimp only at lead
  repeat' split at lead
  all_goals try obtain ⟨rfl, rfl⟩ := Prod.mk.inj (Option.some.inj lead)
  · exact .one (by omega) rfl
  · cases lead
  · exact .two (by omega) (by omega) (by omega)
  · exact .three (by omega) (by omega) (by omega) (by omega) (by omega)
  · exact .three (by omega) (by omega) (by omega) (by omega) (by omega)
  · exact .three (by omega) (by omega) (by omega) (by omega) (by omega)
  · exact .four (by omega) (by omega) (by omega) (by omega) (by omega)
  · exact .four (by omega) (by omega) (by omega) (by omega) (by omega)
  · exact .four (by omega) (by omega) (by omega) (by omega) (by omega)
  · cases lead

/-- The rows exclude each other, so a first byte in one of them is in no row above it. -/
theorem Lead.lead?_eq {first share : Nat} {bounds : List (Nat × Nat)}
    (lead : Lead first share bounds) : lead? first = some (share, bounds) := by
  unfold lead?
  dsimp only
  cases lead with
  | one small whole => rw [if_pos small, whole]
  | two least greatest part =>
      rw [if_neg (by omega), if_neg (by omega), if_pos greatest, part, Nat.add_sub_cancel]
  | three least greatest part atLeast atMost =>
      rw [if_neg (by omega), if_neg (by omega), if_neg (by omega)]
      rcases atLeast with ⟨same, rfl⟩ | ⟨other, rfl⟩
      · obtain rfl : share = 0 := by omega
        obtain ⟨-, rfl⟩ := atMost.resolve_left (by omega)
        rw [if_pos same]
      · rw [if_neg other]
        rcases atMost with ⟨same, rfl⟩ | ⟨other, rfl⟩
        · obtain rfl : share = 0xD := by omega
          rw [if_pos same]
        · rw [if_neg other, if_pos greatest, part, Nat.add_sub_cancel]
  | four least greatest part atLeast atMost =>
      rw [if_neg (by omega), if_neg (by omega), if_neg (by omega), if_neg (by omega),
        if_neg (by omega), if_neg (by omega)]
      rcases atLeast with ⟨same, rfl⟩ | ⟨other, rfl⟩
      · obtain rfl : share = 0 := by omega
        obtain ⟨-, rfl⟩ := atMost.resolve_left (by omega)
        rw [if_pos same]
      · rw [if_neg other]
        rcases atMost with ⟨same, rfl⟩ | ⟨other, rfl⟩
        · obtain rfl : share = 4 := by omega
          rw [if_neg (by omega), if_pos same]
        · rw [if_pos (by omega), part, Nat.add_sub_cancel]

theorem exists_bound (special : Prop) (a b : Nat) :
    ∃ bound, special ∧ bound = a ∨ ¬ special ∧ bound = b := by
  by_cases here : special
  · exact ⟨a, .inl ⟨here, rfl⟩⟩
  · exact ⟨b, .inr ⟨here, rfl⟩⟩

/-- A character is read back from its bytes. -/
theorem exists_lead (c : Char) :
    ∃ first tail share bounds, encodeChar c = first :: tail ∧ Lead first share bounds ∧
      Fits bounds tail ∧ codeOf share tail = c.toNat := by
  have valid := toNat_valid c
  rw [encodeChar_eq]
  split_ifs with one two three
  · exact ⟨_, [], c.toNat, [], rfl, .one one rfl, .nil, rfl⟩
  · refine ⟨_, _, c.toNat / 64, _, rfl, .two (by omega) (by omega) rfl, .cons ?_ .nil, ?_⟩
    · dsimp only
      omega
    · simp only [codeOf, List.foldl_cons, List.foldl_nil]
      omega
  · obtain ⟨low, atLeast⟩ := exists_bound (c.toNat / 4096 + 0xE0 = 0xE0) 0xA0 0x80
    obtain ⟨high, atMost⟩ := exists_bound (c.toNat / 4096 + 0xE0 = 0xED) 0x9F 0xBF
    refine ⟨_, _, c.toNat / 4096, _, rfl, .three (by omega) (by omega) rfl atLeast atMost,
      .cons ?_ (.cons ?_ .nil), ?_⟩
    · dsimp only
      omega
    · dsimp only
      omega
    · simp only [codeOf, List.foldl_cons, List.foldl_nil]
      omega
  · obtain ⟨low, atLeast⟩ := exists_bound (c.toNat / 262144 + 0xF0 = 0xF0) 0x90 0x80
    obtain ⟨high, atMost⟩ := exists_bound (c.toNat / 262144 + 0xF0 = 0xF4) 0x8F 0xBF
    refine ⟨_, _, c.toNat / 262144, _, rfl, .four (by omega) (by omega) rfl atLeast atMost,
      .cons ?_ (.cons ?_ (.cons ?_ .nil)), ?_⟩
    · dsimp only
      omega
    · dsimp only
      omega
    · dsimp only
      omega
    · simp only [codeOf, List.foldl_cons, List.foldl_nil]
      omega

theorem toNat_ofNat {n : Nat} (valid : n < 0xD800 ∨ 0xDFFF < n ∧ n < 0x110000) :
    (Char.ofNat n).toNat = n := by
  have isChar : n.isValidChar := valid
  rw [Char.ofNat, dif_pos isChar]
  rfl

/-- Bytes that fit together are those of a character. -/
theorem encodeChar_of_fits {first share : Nat} {bounds : List (Nat × Nat)} {tail : List Nat}
    (lead : Lead first share bounds) (fits : Fits bounds tail) :
    encodeChar (Char.ofNat (codeOf share tail)) = first :: tail := by
  simp only [Fits] at fits
  cases lead with
  | one small whole =>
      cases fits
      simp only [codeOf, List.foldl_nil]
      rw [encodeChar_eq, toNat_ofNat (by omega), if_pos (by omega), whole]
  | two least greatest part =>
      simp only [List.forall₂_cons_left_iff, List.forall₂_nil_left_iff] at fits
      obtain ⟨second, _, within₂, rfl, rfl⟩ := fits
      simp only [codeOf, List.foldl_cons, List.foldl_nil]
      rw [encodeChar_eq, toNat_ofNat (by omega), if_neg (by omega), if_pos (by omega)]
      simp only [List.cons.injEq, and_true]
      omega
  | three least greatest part atLeast atMost =>
      simp only [List.forall₂_cons_left_iff, List.forall₂_nil_left_iff] at fits
      obtain ⟨second, _, within₂, ⟨third, _, within₃, rfl, rfl⟩, rfl⟩ := fits
      simp only [codeOf, List.foldl_cons, List.foldl_nil]
      rw [encodeChar_eq, toNat_ofNat (by omega), if_neg (by omega), if_neg (by omega),
        if_pos (by omega)]
      simp only [List.cons.injEq, and_true]
      omega
  | four least greatest part atLeast atMost =>
      simp only [List.forall₂_cons_left_iff, List.forall₂_nil_left_iff] at fits
      obtain ⟨second, _, within₂, ⟨third, _, within₃, ⟨fourth, _, within₄, rfl, rfl⟩, rfl⟩, rfl⟩ := fits
      simp only [codeOf, List.foldl_cons, List.foldl_nil]
      rw [encodeChar_eq, toNat_ofNat (by omega), if_neg (by omega), if_neg (by omega),
        if_neg (by omega)]
      simp only [List.cons.injEq, and_true]
      omega

/-! ## Characters one after the other -/

theorem encode_cons (c : Char) (t : Text) : encode (c :: t) = encodeChar c ++ encode t := by
  rw [encode, List.flatMap_cons, encode]

theorem encodeChar_ne_nil (c : Char) : encodeChar c ≠ [] := by
  obtain ⟨first, tail, share, bounds, bytes, -⟩ := exists_lead c
  simp [bytes]

theorem decodeFrom_encodeChar (fuel offset : Nat) (c : Char) (rest : List Nat) :
    ∃ next, decodeFrom (fuel + 1) offset (encodeChar c ++ rest) =
      (decodeFrom fuel next rest).map (c :: ·) := by
  obtain ⟨first, tail, share, bounds, bytes, isLead, fits, code⟩ := exists_lead c
  have lead := isLead.lead?_eq
  have read : continue? share 0 bounds (tail ++ rest) = .ok (c.toNat, rest) :=
    (continue?_eq_ok_iff ..).mpr ⟨tail, rfl, fits, code⟩
  refine ⟨offset + 1 + bounds.length, ?_⟩
  rw [bytes, List.cons_append]
  simp only [decodeFrom, lead, read, Char.ofNat_toNat]

/-- One step of decoding takes exactly the bytes that encode the character it gives. -/
theorem encodeChar_of_decodeFrom {fuel offset first : Nat} {bytes : List Nat} {t : Text}
    (decoded : decodeFrom (fuel + 1) offset (first :: bytes) = .ok t) :
    ∃ c rest following next, first :: bytes = encodeChar c ++ rest ∧
      decodeFrom fuel next rest = .ok following ∧ t = c :: following := by
  cases lead : lead? first with
  | none => simp [decodeFrom, lead] at decoded
  | some head =>
      obtain ⟨share, bounds⟩ := head
      cases read : continue? share 0 bounds bytes with
      | error fault => simp [decodeFrom, lead, read] at decoded
      | ok result =>
          obtain ⟨code, rest⟩ := result
          obtain ⟨tail, rfl, fits, rfl⟩ := (continue?_eq_ok_iff ..).mp read
          have bytes := encodeChar_of_fits (.of_lead? lead) fits
          simp only [decodeFrom, lead, read] at decoded
          cases after : decodeFrom fuel (offset + 1 + bounds.length) rest with
          | error fault => simp [after, Except.map] at decoded
          | ok following =>
              simp only [after, Except.map, Except.ok.injEq] at decoded
              exact ⟨_, rest, following, _, by rw [bytes]; rfl, after, decoded.symm⟩

/-- The induction is on the number of characters that may be read, of which there are never more than
bytes. -/
theorem decodeFrom_eq_ok_iff {fuel offset : Nat} {bytes : List Nat} (enough : bytes.length ≤ fuel)
    (t : Text) : decodeFrom fuel offset bytes = .ok t ↔ bytes = encode t := by
  have nothing : ∀ t : Text, .ok [] = (.ok t : Except Utf8Fault Text) ↔ [] = encode t := by
    intro t
    cases t with
    | nil => simp [encode]
    | cons c t => simp [encode_cons, encodeChar_ne_nil]
  induction fuel generalizing offset bytes t with
  | zero =>
      obtain rfl : bytes = [] := List.length_eq_zero_iff.mp (by omega)
      exact nothing t
  | succ fuel ih =>
      cases bytes with
      | nil => exact nothing t
      | cons first bytes =>
          constructor
          · intro decoded
            obtain ⟨c, rest, following, next, split, after, rfl⟩ := encodeChar_of_decodeFrom decoded
            have shorter : rest.length ≤ fuel := by
              have size := congrArg List.length split
              have some := List.length_pos_iff.mpr (encodeChar_ne_nil c)
              simp only [List.length_cons, List.length_append] at size enough
              omega
            rw [split, encode_cons, (ih shorter following).mp after]
          · intro same
            cases t with
            | nil => cases same
            | cons c t =>
                have shorter : (encode t).length ≤ fuel := by
                  have size := congrArg List.length same
                  have some := List.length_pos_iff.mpr (encodeChar_ne_nil c)
                  simp only [encode_cons, List.length_cons, List.length_append] at size enough
                  omega
                obtain ⟨next, step⟩ := decodeFrom_encodeChar fuel offset c (encode t)
                rw [same, encode_cons, step, (ih shorter t).mpr rfl]
                rfl

/-- Bytes are decoded exactly if they encode a text, and to that text. -/
theorem decode_eq_ok_iff (bytes : List Nat) (t : Text) : decode bytes = .ok t ↔ bytes = encode t :=
  decodeFrom_eq_ok_iff (Nat.le_refl _) t

end DocComment.Utf8
