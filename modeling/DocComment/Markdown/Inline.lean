/- Inlines. A text is read from left to right; what is no mark-up gathers as plain text. The end of a
link text is found by skipping over the inlines inside it, and how far each of them reaches is
remembered, so that no place is skipped over twice. Nesting is bounded, both while skipping and while
reading. -/
import DocComment.Markdown.Emphasis
import DocComment.Markdown.Frame
import DocComment.Markdown.Html

namespace DocComment.Markdown

set_option autoImplicit false

/-- A place in a text of inlines. -/
structure Spot where
  /-- How many characters come before. -/
  pos : Nat
  /-- How many characters may be read, up to the end of the text or of the link text around. -/
  room : Nat
  /-- The character before; a space at the beginning. -/
  before : Char
  /-- All that follows, beyond the end of a link text too. -/
  tail : Text
  deriving Repr

namespace Spot

def ofText (t : Text) : Spot := { pos := 0, room := t.length, before := ' ', tail := t }

def advance (s : Spot) (count : Nat) : Spot :=
  match count with
  | 0 => s
  | n + 1 =>
    { pos := s.pos + count
      room := s.room - count
      before := s.tail.getD n s.before
      tail := s.tail.drop count }

/-- What may be read. -/
def visible (s : Spot) : Text := s.tail.take s.room

def head? (s : Spot) : Option Char := if s.room = 0 then none else s.tail.head?

/-- The longest piece that may be read next and consists of given characters. -/
def run (s : Spot) (p : Char → Bool) : Text := (s.tail.takeWhile p).take s.room

def within (s : Spot) (room : Nat) : Spot := { s with room }

end Spot

/-- What was found out about a text of inlines. -/
structure Memo where
  /-- For places that were skipped over, where the inline at that place ends. -/
  ends : List (Nat × Nat) := []
  /-- For lengths of runs of backticks, a place where such a run begins. -/
  ticks : List (Nat × Nat) := []
  /-- Whether the text was searched for runs of backticks up to its end. -/
  ticksKnown : Bool := false
  deriving Repr

namespace Inline

/-- Whether a character ends a run of plain text. -/
def endsText (c : Char) : Bool := "\n!#$%&*+-:<=>@[\\]^_`\x7b\x7d~".toList.contains c

/-- The length of a line break together with the indentation after it. -/
def breakLength (s : Spot) : Nat := 1 + ((s.advance 1).run isIndent).length

/-- An inline that is read without looking into it: its element and its length. -/
structure Atom where
  element : Element
  length : Nat
  deriving Repr

def escape? (visible : Text) : Option Atom :=
  match visible with
  | '\\' :: '\n' :: rest =>
    some ⟨{ kind := .hardBreak, tag := "br".toList }, 2 + (rest.takeWhile isIndent).length⟩
  | '\\' :: c :: _ =>
    some ⟨{ kind := .special, content := if isAsciiPunctuation c then [c] else ['\\', c]
            markup := ['\\', c], info := "escape".toList }, 2⟩
  | _ => none

def entity? (s : Spot) : Option Atom :=
  if s.room < 2 then none
  else
    (Entity.read? s.tail).map fun (content, rest) =>
      let length := s.tail.length - rest.length
      ⟨{ kind := .special, content, markup := s.tail.take length, info := "entity".toList }, length⟩

def dropNewline (t : Text) : Text := (Text.before? ['\n'] t).getD t

/-- Whether a text is a target with a scheme. One newline at its end does not count. -/
def isAbsolute (t : Text) : Bool :=
  match t with
  | [] => false
  | c :: _ =>
    let scheme := t.takeWhile fun c =>
      isAsciiLetter c || isAsciiDigit c || c == '+' || c == '.' || c == '-'
    match dropNewline (t.drop scheme.length) with
    | ':' :: rest =>
      isAsciiLetter c && 2 ≤ scheme.length && scheme.length ≤ 32 &&
        rest.all fun c => c != '<' && c != '>' && 0x20 < c.toNat
    | _ => false

/-- Whether a text is a label of a mail host. -/
def isMailLabel (t : Text) : Bool :=
  let isEdge := fun c => isAsciiLetter c || isAsciiDigit c
  t.length ≤ 63 && t.all (fun c => isEdge c || c == '-') &&
    (t.head?.map isEdge).getD false && (t.getLast?.map isEdge).getD false

/-- Whether a text is a mail address. One newline at its end does not count. -/
def isMail (t : Text) : Bool :=
  match Text.cutAt? '@' (dropNewline t) with
  | none => false
  | some (user, host) =>
    !user.isEmpty &&
      user.all (fun c => isAsciiLetter c || isAsciiDigit c ||
        ".!#$%&'*+/=?^_`\x7b|\x7d~-".toList.contains c) &&
      (Text.splitOn '.' host).all isMailLabel

def autolink? (visible : Text) : Option Atom :=
  match visible with
  | '<' :: rest => do
    let (url, _) ← Text.cutAt? '>' rest
    if url.contains '<' then none
    else
      let href ←
        if isAbsolute url then some (Url.normalize url)
        else if isMail url then some (Url.normalize ("mailto:".toList ++ url))
        else none
      if Url.isAllowed href then
        some ⟨{ kind := .link, tag := ['a'], attrs := [("href".toList, .str href)]
                markup := "autolink".toList, info := "auto".toList
                children := [Emphasis.plain (Url.display url)] }, url.length + 2⟩
      else none
  | _ => none

def html? (s : Spot) : Option Atom :=
  if s.room ≤ 2 then none
  else
    (Html.piece? s.tail).map fun rest =>
      let length := s.tail.length - rest.length
      ⟨{ kind := .html, content := s.tail.take length }, length⟩

/-- The inline that begins with a backslash, an angle bracket or an ampersand. -/
def atom? (s : Spot) : Option Atom :=
  match s.tail with
  | '\\' :: _ => escape? s.visible
  | '<' :: _ => autolink? s.visible <|> html? s
  | '&' :: _ => entity? s
  | _ => none

/-- The code between two runs of backticks: newlines are spaces, and one space at each end is dropped
if there is one at both and not all is blank. -/
def codeContent (t : Text) : Text :=
  let t := t.map fun c => if c = '\n' then ' ' else c
  if t.head? == some ' ' && t.getLast? == some ' ' && !(Text.trim t).isEmpty then
    (t.drop 1).take (t.length - 2)
  else t

/-- The text before the run of backticks with a given length, among `fuel` runs, where the text begins
at a place and may be read up to a limit. The other runs on the way are remembered. -/
def closingTicks (length limit : Nat) : Nat → Nat → Text → Memo → Option Text × Memo
  | 0, _, _, memo => (none, memo)
  | fuel + 1, pos, t, memo =>
    let code := t.takeWhile (· != '`')
    match t.drop code.length with
    | [] => (none, { memo with ticksKnown := true })
    | _ :: rest =>
      let start := pos + code.length
      let more := ((rest.take (limit - (start + 1))).takeWhile (· == '`')).length
      if more + 1 = length then (some code, memo)
      else
        let memo := { memo with ticks := (more + 1, start) :: memo.ticks }
        let (found, memo) :=
          closingTicks length limit fuel (start + 1 + more) (rest.drop more) memo
        (found.map fun tail => code ++ List.replicate (more + 1) '`' ++ tail, memo)

/-- A run of backticks: its length, and the code that it opens. -/
def ticks (s : Spot) (memo : Memo) : Nat × Option Text × Memo :=
  let length := (s.run (· == '`')).length
  if memo.ticksKnown && (memo.ticks.lookup length).getD 0 ≤ s.pos then (length, none, memo)
  else
    let (code, memo) := closingTicks length (s.pos + s.room) (s.tail.length + 1) (s.pos + length)
      (s.tail.drop length) memo
    (length, code, memo)

/-- Skips an inline at a level: gives the place after it. -/
abbrev Skip := Nat → Spot → Memo → Nat × Memo

/-- The place of the bracket that closes a link text, among `fuel` inlines, inside some open brackets.
If `single`, there may be no link inside. -/
def labelEnd (skip : Skip) (level : Nat) (single : Bool) :
    Nat → Nat → Spot → Memo → Option Nat × Memo
  | 0, _, _, memo => (none, memo)
  | fuel + 1, opened, s, memo =>
    match s.head? with
    | none => (none, memo)
    | some c =>
      if c = ']' ∧ opened = 0 then (some s.pos, memo)
      else
        let opened := if c = ']' then opened - 1 else opened
        let (next, memo) := skip level s memo
        let s' := s.advance (next - s.pos)
        if c = '[' then
          if next = s.pos + 1 then labelEnd skip level single fuel (opened + 1) s' memo
          else if single then (none, memo)
          else labelEnd skip level single fuel opened s' memo
        else labelEnd skip level single fuel opened s' memo

/-- A link or an image: the length of its text, its target and title, and its whole length. -/
structure Site where
  label : Nat
  href : Text
  title : Text
  length : Nat
  deriving Repr

/-- A text without the spaces, tabs and newlines at its head. -/
def skipSpace (t : Text) : Text := t.dropWhile fun c => isIndent c || c == '\n'

/-- Target and title after an opening parenthesis, and the text that follows them. A target that may
not be used is left where it is. -/
def target (t : Text) : Text × Text × Text :=
  match Target.destination? t with
  | none => ([], [], t)
  | some (destination, rest) =>
    let href := Url.normalize destination
    let (href, rest) := if Url.isAllowed href then (href, rest) else ([], t)
    let after := skipSpace rest
    if after.length = rest.length then (href, [], after)
    else
      match Target.title? after with
      | none => (href, [], after)
      | some (title, rest) => (href, title, skipSpace rest)

/-- The definition that a link or image refers to. `here` is the place after its text, `next` the place
where another label may follow. Gives the definition and the place after the reference. -/
def reference? (skip : Skip) (definitions : Definitions) (level : Nat) (text : Text) (here : Nat)
    (next : Spot) (memo : Memo) : Option (Definition × Nat) × Memo :=
  if definitions.isEmpty then (none, memo)
  else
    let (second, memo) :=
      match next.head? with
      | some '[' =>
        let inside := next.advance 1
        let (stop, memo) := labelEnd skip level false (inside.room + 1) 0 inside memo
        (stop.map fun stop => (inside.tail.take (stop - inside.pos), stop + 1), memo)
      | _ => (none, memo)
    let (label, after) := second.getD ([], here)
    let label := if label.isEmpty then text else label
    ((definitions.find? (Target.normalLabel label)).map fun d => (d, after), memo)

/-- The link at an opening bracket. If the target in parentheses is not well formed, the link may still
refer to a definition, whose label is looked for one character after the place of the fault. -/
def link? (skip : Skip) (definitions : Definitions) (level : Nat) (s : Spot) (memo : Memo) :
    Option Site × Memo :=
  let inside := s.advance 1
  match labelEnd skip level true (inside.room + 1) 0 inside memo with
  | (none, memo) => (none, memo)
  | (some close, memo) =>
    let text := inside.tail.take (close - inside.pos)
    let after := inside.advance (close + 1 - inside.pos)
    let refer := fun (next : Spot) =>
      match reference? skip definitions level text after.pos next memo with
      | (none, memo) => (none, memo)
      | (some (d, stop), memo) => (some ⟨text.length, d.href, d.title, stop - s.pos⟩, memo)
    match after.visible with
    | '(' :: rest =>
      let body := skipSpace rest
      if body.isEmpty then (none, memo)
      else
        let (href, title, rest) := target body
        let here := after.advance (after.room - rest.length)
        match rest with
        | ')' :: _ => (some ⟨text.length, href, title, here.pos + 1 - s.pos⟩, memo)
        | _ => refer (here.advance 1)
    | _ => refer after

def image? (skip : Skip) (definitions : Definitions) (level : Nat) (s : Spot) (memo : Memo) :
    Option Site × Memo :=
  match s.visible with
  | '!' :: '[' :: _ =>
    let inside := s.advance 2
    match labelEnd skip level false (inside.room + 1) 0 inside memo with
    | (none, memo) => (none, memo)
    | (some close, memo) =>
      let text := inside.tail.take (close - inside.pos)
      let after := inside.advance (close + 1 - inside.pos)
      match after.visible with
      | '(' :: rest =>
        let body := skipSpace rest
        let (href, title, rest) := target body
        match rest with
        | ')' :: _ =>
          if body.isEmpty then (none, memo)
          else
            let here := after.advance (after.room - rest.length)
            (some ⟨text.length, href, title, here.pos + 1 - s.pos⟩, memo)
        | _ => (none, memo)
      | _ =>
        match reference? skip definitions level text after.pos after memo with
        | (none, memo) => (none, memo)
        | (some (d, stop), memo) => (some ⟨text.length, d.href, d.title, stop - s.pos⟩, memo)
  | _ => (none, memo)

/-- Skips an inline, with links inside links at most `fuel` deep. Beyond the greatest level the skip
goes past the end of the text. -/
def skip (definitions : Definitions) : Nat → Skip
  | 0 => fun _ s memo => (s.pos + s.room + 1, memo)
  | fuel + 1 => fun level s memo =>
    match memo.ends.lookup s.pos with
    | some stop => (stop, memo)
    | none =>
      let (length, memo) : Nat × Memo :=
        if maxDepth ≤ level then (s.room + 1, memo)
        else
          match s.tail with
          | [] => (1, memo)
          | '\n' :: _ => (breakLength s, memo)
          | '`' :: _ =>
            let (length, code, memo) := ticks s memo
            ((code.map fun code => 2 * length + code.length).getD length, memo)
          | '[' :: _ =>
            let (site, memo) := link? (skip definitions fuel) definitions (level + 1) s memo
            ((site.map Site.length).getD 1, memo)
          | '!' :: _ =>
            let (site, memo) := image? (skip definitions fuel) definitions (level + 1) s memo
            ((site.map Site.length).getD 1, memo)
          | c :: _ =>
            if endsText c then (((atom? s).map Atom.length).getD 1, memo)
            else ((s.run (!endsText ·)).length, memo)
      (s.pos + length, { memo with ends := (s.pos, s.pos + length) :: memo.ends })

/-- Reads the inlines of a link text or an image. -/
structure Inner where
  /-- The inlines of a link text at a level. -/
  link : Nat → Spot → Memo → List Element × Memo
  /-- The inlines of a text of its own. -/
  text : Text → List Element

def siteAttrs (key : Text) (site : Site) : Fields :=
  (key, .str site.href) ::
    (if site.title.isEmpty then [] else [("title".toList, .str site.title)])

/-- Pieces after plain text that has gathered. -/
def flush (pending : Text) (pieces : List Piece) : List Piece :=
  if pending.isEmpty then pieces else .element (Emphasis.plain pending) :: pieces

/-- Plain text before a line break, and whether the break is a hard one: two or more spaces before it
make it so. -/
def breakAfter (pending : Text) : Text × Element :=
  let kept := Text.dropRightWhile (· == ' ') pending
  let kind := if kept.length + 2 ≤ pending.length then Kind.hardBreak else .softBreak
  (kept, { kind, tag := "br".toList })

/-- The pieces of a text at a level, of at most `fuel` steps, after plain text that has gathered. -/
def pieces (inner : Inner) (definitions : Definitions) (level : Nat) :
    Nat → Text → Spot → Memo → List Piece × Memo
  | 0, pending, _, memo => (flush pending [], memo)
  | fuel + 1, pending, s, memo =>
    let more := fun (pending : Text) (length : Nat) (memo : Memo) =>
      pieces inner definitions level fuel pending (s.advance length) memo
    let push := fun (pending : Text) (new : List Piece) (length : Nat) (memo : Memo) =>
      let (rest, memo) := more [] length memo
      (flush pending (new ++ rest), memo)
    match s.head? with
    | none => (flush pending [], memo)
    | some c =>
      if maxDepth ≤ level then more (pending ++ [c]) 1 memo
      else
        match c with
        | '\n' =>
          let (pending, e) := breakAfter pending
          push pending [.element e] (breakLength s) memo
        | '`' =>
          let (length, code, memo) := ticks s memo
          let run := List.replicate length '`'
          match code with
          | none => more (pending ++ run) length memo
          | some code =>
            push pending
              [.element { kind := .code, tag := "code".toList, content := codeContent code
                          markup := run }]
              (2 * length + code.length) memo
        | '[' =>
          match link? (skip definitions (maxDepth + 1)) definitions level s memo with
          | (none, memo) => more (pending ++ [c]) 1 memo
          | (some site, memo) =>
            let (children, memo) := inner.link (level + 1) ((s.advance 1).within site.label) memo
            push pending
              [.element { kind := .link, tag := ['a'], attrs := siteAttrs "href".toList site
                          children }]
              site.length memo
        | '!' =>
          match image? (skip definitions (maxDepth + 1)) definitions level s memo with
          | (none, memo) => more (pending ++ [c]) 1 memo
          | (some site, memo) =>
            let content := (s.tail.drop 2).take site.label
            push pending
              [.element { kind := .image, tag := "img".toList, attrs := siteAttrs "src".toList site
                          content, children := inner.text content }]
              site.length memo
        | c =>
          if c = '*' ∨ c = '_' then
            let length := (s.run (· == c)).length
            let mark := Mark.ofRun c length s.before ((s.advance length).head?.getD ' ')
            push pending (List.replicate length (.mark mark)) length memo
          else if endsText c then
            match atom? s with
            | none => more (pending ++ [c]) 1 memo
            | some atom => push pending [.element atom.element] atom.length memo
          else
            let run := s.run (!endsText ·)
            more (pending ++ run) run.length memo

/-- The inlines of a text at a level, with link texts and images at most `fuel` deep. -/
def readSpot (definitions : Definitions) : Nat → Nat → Spot → Memo → List Element × Memo
  | 0, _, _, memo => ([], memo)
  | fuel + 1, level, s, memo =>
    let inner : Inner :=
      { link := readSpot definitions fuel
        text := fun t => (readSpot definitions fuel 0 (.ofText t) {}).1 }
    let (found, memo) := pieces inner definitions level (s.room + 1) [] s memo
    (Emphasis.resolve found, memo)

def read (definitions : Definitions) (t : Text) : List Element :=
  (readSpot definitions (t.length + 1) 0 (.ofText t) {}).1

end Inline

end DocComment.Markdown
