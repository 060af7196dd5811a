/- Strict decoding of UTF-8. A fault names the longest run of bytes that begins a character and can
still be completed, at least one byte, and the reason why the decoder stops there. -/
import DocComment.Text.Quoted

namespace DocComment

set_option autoImplicit false

inductive Utf8Reason where
  /-- No character begins with this byte. -/
  | start
  /-- A byte that continues a character is missing. -/
  | continuation
  /-- The input ends inside a character. -/
  | ending
  deriving DecidableEq, Repr

/-- A run of bytes that cannot be decoded. -/
structure Utf8Fault where
  /-- Offset of the first byte of the run. -/
  first : Nat
  /-- The first byte. -/
  byte : Nat
  /-- How many bytes the run has. -/
  count : Nat
  reason : Utf8Reason
  deriving DecidableEq, Repr

def Utf8Reason.message : Utf8Reason → Text
  | .start => "invalid start byte".toList
  | .continuation => "invalid continuation byte".toList
  | .ending => "unexpected end of data".toList

def Utf8Fault.message (fault : Utf8Fault) : Text :=
  let place :=
    if fault.count ≤ 1 then
      "byte 0x".toList ++ Text.hex 2 fault.byte ++ " in position ".toList ++ Text.ofNat fault.first
    else
      "bytes in position ".toList ++ Text.ofNat fault.first ++ ['-'] ++
        Text.ofNat (fault.first + fault.count - 1)
  "'utf-8' codec can't decode ".toList ++ place ++ ": ".toList ++ fault.reason.message

namespace Utf8

/-- For a first byte: its share of the code point, and for each byte that must follow the least and
the greatest value it may have. -/
def lead? (byte : Nat) : Option (Nat × List (Nat × Nat)) :=
  let tail := (0x80, 0xBF)
  if byte < 0x80 then some (byte, [])
  else if byte < 0xC2 then none
  else if byte < 0xE0 then some (byte - 0xC0, [tail])
  else if byte = 0xE0 then some (0, [(0xA0, 0xBF), tail])
  else if byte = 0xED then some (0xD, [(0x80, 0x9F), tail])
  else if byte < 0xF0 then some (byte - 0xE0, [tail, tail])
  else if byte = 0xF0 then some (0, [(0x90, 0xBF), tail, tail])
  else if byte < 0xF4 then some (byte - 0xF0, [tail, tail, tail])
  else if byte = 0xF4 then some (4, [(0x80, 0x8F), tail, tail])
  else none

/-- The code point of a character whose first bytes give `code`, and the bytes after it; or the number
of continuation bytes that fit, and why the next one does not. -/
def continue? (code taken : Nat) :
    List (Nat × Nat) → List Nat → Except (Nat × Utf8Reason) (Nat × List Nat)
  | [], bytes => .ok (code, bytes)
  | _ :: _, [] => .error (taken, .ending)
  | (least, greatest) :: bounds, byte :: bytes =>
    if least ≤ byte ∧ byte ≤ greatest then
      continue? (code * 64 + (byte - 0x80)) (taken + 1) bounds bytes
    else .error (taken, .continuation)

/-- The characters of a byte sequence that starts at an offset, at most `fuel` of them. -/
def decodeFrom : Nat → Nat → List Nat → Except Utf8Fault Text
  | _, _, [] => .ok []
  | 0, _, _ :: _ => .ok []
  | fuel + 1, offset, byte :: bytes =>
    match lead? byte with
    | none => .error ⟨offset, byte, 1, .start⟩
    | some (share, bounds) =>
      match continue? share 0 bounds bytes with
      | .error (taken, reason) => .error ⟨offset, byte, taken + 1, reason⟩
      | .ok (code, rest) =>
        (decodeFrom fuel (offset + 1 + bounds.length) rest).map (Char.ofNat code :: ·)

def decode (bytes : List Nat) : Except Utf8Fault Text := decodeFrom bytes.length 0 bytes

end Utf8

end DocComment
