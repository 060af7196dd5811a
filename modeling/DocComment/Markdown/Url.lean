/- Targets of links. A target is taken apart and put together again: an empty user part, an empty port
and brackets around a host without colons are lost on the way. Labels of a host name that are not
ASCII are written in Punycode. What may not stand in a target is percent-encoded; the text of an
autolink is decoded instead. Targets that could run code are refused. -/
import DocComment.Markdown.Punycode
import DocComment.Text.Blank
import DocComment.Text.Case
import DocComment.Text.Character
import DocComment.Text.Quoted
import DocComment.Text.Utf8

namespace DocComment.Markdown

set_option autoImplicit false

structure Url where
  protocol : Text := []
  slashes : Bool := false
  user : Text := []
  host : Text := []
  port : Text := []
  /-- Path, query and fragment. -/
  rest : Text := []
  deriving DecidableEq, Repr

namespace Url

/-- A letter of a protocol name; four letters beyond ASCII fold to such letters. -/
def isProtocolChar (c : Char) : Bool :=
  isAsciiLetter c || isAsciiDigit c || c == '.' || c == '+' || c == '-' ||
    c.toNat == 0x130 || c.toNat == 0x131 || c.toNat == 0x17F || c.toNat == 0x212A

/-- The protocol at the head of a target, with its colon, and the rest. -/
def cutProtocol (t : Text) : Text × Text :=
  let name := t.takeWhile isProtocolChar
  match t.drop name.length with
  | ':' :: rest => if name.isEmpty then ([], t) else (name ++ [':'], rest)
  | _ => ([], t)

/-- Protocols that are always followed by two slashes. -/
def slashedProtocols : List Text :=
  ["http:".toList, "https:".toList, "ftp:".toList, "gopher:".toList, "file:".toList]

/-- Protocols whose host names are written in ASCII. -/
def recodedProtocols : List Text := ["http:".toList, "https:".toList, "mailto:".toList]

/-- The user part and the rest of what follows the slashes. -/
def cutUser (t : Text) : Text × Text :=
  let authority := t.takeWhile fun c => !(c == '/' || c == '?' || c == '#')
  match Text.cutAtLast? '@' authority with
  | none => ([], t)
  | some (user, _) => (user, t.drop (user.length + 1))

def endsHost (c : Char) : Bool := "%/?;#'\x7b\x7d|\\^`<>\" \r\n\t".toList.contains c

/-- The host with its port, and the rest. A colon right before the end is not part of it. -/
def cutHost (t : Text) : Text × Text :=
  let host := t.takeWhile (!endsHost ·)
  let host := (Text.before? [':'] host).getD host
  (host, t.drop host.length)

def cutPort (host : Text) : Text × Text :=
  match Text.cutAtLast? ':' host with
  | some (name, port) => if port.all isAsciiDigit then (name, port) else (host, [])
  | none => (host, [])

/-- Whether a character may stand in a label of a host name. -/
def isLabelChar (c : Char) : Bool :=
  isAsciiLetter c || isAsciiDigit c || c == '+' || c == '_' || c == '-'

/-- Whether a label is well formed, where characters beyond ASCII count as letters. -/
def isLabel (label : Text) : Bool :=
  label.length ≤ 63 && label.all fun c => isLabelChar c || 0x80 ≤ c.toNat

/-- The part of a label that may stay in the host name. -/
def labelHead (label : Text) : Text := (label.take 63).takeWhile isLabelChar

/-- Cuts a host name where a label goes wrong. -/
def cutLabels : List Text → List Text × Option (List Text)
  | [] => ([], none)
  | label :: labels =>
    if isLabel label then
      let (kept, wrong) := cutLabels labels
      (label :: kept, wrong)
    else
      let head := labelHead label
      ([head], some (label.drop head.length :: labels))

/-- The host name, and what follows it once wrong labels are moved to the rest. -/
def settleHost (host rest : Text) : Text × Text :=
  match Text.after? ['['] host, Text.endsWith host [']'] with
  | some inner, true =>
    if 255 < host.length then ([], rest) else (inner.take (inner.length - 1), rest)
  | _, _ =>
    let (labels, wrong) := cutLabels (Text.splitOn '.' host)
    let name := Text.joinWith ['.'] labels
    let rest :=
      match wrong with
      | none => rest
      | some labels => Text.joinWith ['.'] labels ++ rest
    (if 255 < name.length then [] else name, rest)

def ofText (t : Text) : Url :=
  let (protocol, body) := cutProtocol (Text.trim t)
  let hostless := protocol == "javascript:".toList
  let slashes := Text.startsWith body ['/', '/']
  let body := if slashes && !hostless then body.drop 2 else body
  if !hostless && (slashes || (!protocol.isEmpty && !slashedProtocols.contains protocol)) then
    let (user, body) := cutUser body
    let (host, body) := cutHost body
    let (name, port) := cutPort host
    let (name, body) := settleHost name body
    { protocol, slashes, user, host := name, port, rest := body }
  else { protocol, slashes := slashes && !hostless, rest := body }

def toText (url : Url) : Text :=
  url.protocol ++ (if url.slashes then ['/', '/'] else []) ++
    (if url.user.isEmpty then [] else url.user ++ ['@']) ++
    (if url.host.contains ':' then ['['] ++ url.host ++ [']'] else url.host) ++
    (if url.port.isEmpty then [] else ':' :: url.port) ++ url.rest

def labels (host : Text) : List Text :=
  Text.splitOn '.' (host.map fun c =>
    if c.toNat == 0x3002 || c.toNat == 0xFF0E || c.toNat == 0xFF61 then '.' else c)

def hostToAscii (host : Text) : Text :=
  Text.joinWith ['.'] ((labels host).map fun label =>
    if label.any fun c => 0x7E < c.toNat then "xn--".toList ++ Punycode.encode label else label)

/-- A host name with its Punycode read; unchanged if a label cannot be read. -/
def hostToUnicode (host : Text) : Text :=
  let read := (labels host).mapM fun label =>
    match Text.after? "xn--".toList label with
    | some code => Punycode.decode? (Text.lower code)
    | none => some label
  match read with
  | some labels => Text.joinWith ['.'] labels
  | none => host

/-- Changes the host name where the protocol allows it. -/
def recode (change : Text → Text) (url : Url) : Url :=
  if !url.host.isEmpty && (url.protocol.isEmpty || recodedProtocols.contains url.protocol) then
    { url with host := change url.host }
  else url

def bytes (c : Char) : List Nat :=
  let n := c.toNat
  if n < 0x80 then [n]
  else if n < 0x800 then [0xC0 + n / 0x40, 0x80 + n % 0x40]
  else if n < 0x10000 then [0xE0 + n / 0x1000, 0x80 + n / 0x40 % 0x40, 0x80 + n % 0x40]
  else
    [0xF0 + n / 0x40000, 0x80 + n / 0x1000 % 0x40, 0x80 + n / 0x40 % 0x40, 0x80 + n % 0x40]

def percent (byte : Nat) : Text :=
  '%' :: (Text.hex 2 byte).map fun c => if 'a' ≤ c ∧ c ≤ 'z' then Char.ofNat (c.toNat - 32) else c

/-- Whether a character stands for itself in a target. -/
def isPlain (c : Char) : Bool :=
  isAsciiLetter c || isAsciiDigit c || ";/?:@&=+$,-_.!~*'()#".toList.contains c

/-- A target with everything encoded that may not stand in it. A percent sign before two hexadecimal
digits is kept. -/
def encode : Text → Text
  | [] => []
  | c :: rest =>
    let escaped :=
      match rest with
      | a :: b :: _ => isHexDigit a && isHexDigit b
      | _ => false
    if c = '%' then (if escaped then ['%'] else percent 0x25) ++ encode rest
    else (if isPlain c then [c] else (bytes c).flatMap percent) ++ encode rest

/-- The bytes of a run of percent signs with two digits each, and the rest. -/
def percentRun : Text → List Nat × Text
  | '%' :: a :: b :: rest =>
    if isHexDigit a && isHexDigit b then
      let (run, rest) := percentRun rest
      ((16 * hexValue a + hexValue b) :: run, rest)
    else ([], '%' :: a :: b :: rest)
  | t => ([], t)

/-- Decodes bytes; `size` characters of replacement stand for a sequence that is no character. -/
def sequence (size : Nat) (bytes : List Nat) : Text :=
  match Utf8.decode (bytes.take size) with
  | .ok t => t
  | .error _ => List.replicate size (Char.ofNat 0xFFFD)

/-- How many bytes the sequence at the head of a run has, by its first byte; one if the others do not
continue it. -/
def sequenceSize (run : List Nat) : Nat :=
  let continues := fun n => n ≤ run.length && ((run.take n).drop 1).all fun b => b / 0x40 == 2
  match run with
  | [] => 1
  | b :: _ =>
    if b / 0x20 == 6 && continues 2 then 2
    else if b / 0x10 == 14 && continues 3 then 3
    else if b / 8 == 30 && continues 4 then 4
    else 1

/-- Decodes a run of bytes, at most `fuel` sequences. Separators and percent signs stay encoded. -/
def decodeRun : Nat → List Nat → Text
  | 0, _ => []
  | _, [] => []
  | fuel + 1, byte :: run =>
    if byte < 0x80 then
      (if ";/?:@&=+$,#%".toList.contains (Char.ofNat byte) then percent byte else [Char.ofNat byte])
        ++ decodeRun fuel run
    else
      let size := sequenceSize (byte :: run)
      (if size = 1 then [Char.ofNat 0xFFFD] else sequence size (byte :: run)) ++
        decodeRun fuel ((byte :: run).drop size)

/-- A text of at most `fuel` pieces with its percent signs decoded. -/
def decodeUpTo : Nat → Text → Text
  | 0, t => t
  | _, [] => []
  | fuel + 1, c :: rest =>
    match percentRun (c :: rest) with
    | ([], _) => c :: decodeUpTo fuel rest
    | (run, after) => decodeRun run.length run ++ decodeUpTo fuel after

/-- A target as it is stored. -/
def normalize (t : Text) : Text := encode (toText (recode hostToAscii (ofText t)))

def display (t : Text) : Text :=
  let shown := toText (recode hostToUnicode (ofText t))
  decodeUpTo shown.length shown

/-- Whether a stored target may be used: no scripts, local files or data other than images. -/
def isAllowed (t : Text) : Bool :=
  let t := Text.lower (Text.trim t)
  let refused := ["vbscript:".toList, "javascript:".toList, "file:".toList, "data:".toList]
  let images := ["data:image/gif;".toList, "data:image/png;".toList, "data:image/jpeg;".toList,
    "data:image/webp;".toList]
  !refused.any (Text.startsWith t) || images.any (Text.startsWith t)

end Url

end DocComment.Markdown
