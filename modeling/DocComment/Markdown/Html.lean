/- HTML in Markdown: single tags, comments, instructions, declarations and character data, and the
seven ways in which an HTML block begins and ends. -/
import DocComment.Text.Character
import DocComment.Text.Pattern

namespace DocComment.Markdown.Html

set_option autoImplicit false

def tagName : Pattern :=
  .andThen (.one isAsciiLetter) (.run fun c => isAsciiLetter c || isAsciiDigit c || c == '-')

def attributeName : Pattern :=
  .andThen (.one fun c => isAsciiLetter c || c == '_' || c == ':')
    (.run fun c => isAsciiLetter c || isAsciiDigit c || c == ':' || c == '.' || c == '_' || c == '-')

/-- Text up to the next occurrence of a mark, and the mark. -/
def enclosed (mark : Char) : Pattern := fun t =>
  match t with
  | [] => []
  | c :: rest => if c = mark then ((Text.cutAt? mark rest).map Prod.snd).toList else []

def attributeValue : Pattern :=
  .orElse
    (.run1 fun c => !("\"'=<>`".toList.contains c) && 0x20 < c.toNat)
    (.orElse (enclosed '\'') (enclosed '"'))

/-- An attribute with the blanks before it. -/
def attribute1 : Pattern :=
  .andThen (.run1 isBlank) (.andThen attributeName
    (.optional (.andThen (.run isBlank) (.andThen (.literal ['='])
      (.andThen (.run isBlank) attributeValue)))))

def openTag : Pattern := fun t =>
  Pattern.andThen (.literal ['<']) (.andThen tagName (.andThen (.repeated attribute1 t.length)
    (.andThen (.run isBlank) (.andThen (.optional (.literal ['/'])) (.literal ['>']))))) t

def closeTag : Pattern :=
  .andThen (.literal ['<', '/']) (.andThen tagName (.andThen (.run isBlank) (.literal ['>'])))

/-- The remainder after the end of a comment. Hyphens are read in groups of one or two together with
the character after them, so a comment does not end inside such a group. -/
def commentEnd? : Text → Option Text
  | '-' :: '-' :: '>' :: rest => some rest
  | '-' :: '-' :: _ :: rest => commentEnd? rest
  | ['-', '-'] => none
  | '-' :: _ :: rest => commentEnd? rest
  | _ :: rest => commentEnd? rest
  | [] => none

/-- The remainder after the first occurrence of a mark. -/
def afterMark? (mark : Text) (t : Text) : Option Text :=
  (Text.offsetOf? mark t).map fun offset => t.drop (offset + mark.length)

/-- The remainder after the piece of HTML at the head of a text. -/
def piece? (t : Text) : Option Text :=
  match t with
  | '<' :: '!' :: '-' :: '-' :: rest =>
    match rest with
    | '>' :: after => some after
    | '-' :: '>' :: after => some after
    | rest => commentEnd? rest
  | '<' :: '!' :: '[' :: rest => do
    let body ← Text.after? "CDATA[".toList rest
    afterMark? [']', ']', '>'] body
  | '<' :: '!' :: c :: rest =>
    if isAsciiLetter c then (Text.cutAt? '>' rest).map Prod.snd else none
  | '<' :: '?' :: rest => afterMark? ['?', '>'] rest
  | '<' :: '/' :: _ => closeTag.match? t
  | _ => openTag.match? t

/-- A letter in lower case, where four letters beyond ASCII count as the ASCII letters they fold to. -/
def foldLetter (c : Char) : Char :=
  if 'A' ≤ c ∧ c ≤ 'Z' then Char.ofNat (c.toNat + 32)
  else if c.toNat = 0x130 ∨ c.toNat = 0x131 then 'i'
  else if c.toNat = 0x17F then 's'
  else if c.toNat = 0x212A then 'k'
  else c

/-- How an HTML block ends. -/
inductive Ending where
  /-- With the line on which a text occurs. -/
  | mark (text : Text)
  /-- With the line on which a closing tag of verbatim text occurs. -/
  | verbatim
  /-- Before an empty line. -/
  | emptyLine
  deriving DecidableEq, Repr

/-- A kind of HTML block: how it ends, and whether it interrupts a paragraph. -/
structure Opening where
  ending : Ending
  interrupts : Bool
  deriving DecidableEq, Repr

/-- Elements whose text is taken as it is. -/
def verbatimNames : List Text :=
  ["script".toList, "pre".toList, "style".toList, "textarea".toList]

def blockNames : List Text :=
  ["address".toList, "article".toList, "aside".toList, "base".toList, "basefont".toList,
   "blockquote".toList, "body".toList, "caption".toList, "center".toList, "col".toList,
   "colgroup".toList, "dd".toList, "details".toList, "dialog".toList, "dir".toList, "div".toList,
   "dl".toList, "dt".toList, "fieldset".toList, "figcaption".toList, "figure".toList,
   "footer".toList, "form".toList, "frame".toList, "frameset".toList, "h1".toList, "h2".toList,
   "h3".toList, "h4".toList, "h5".toList, "h6".toList, "head".toList, "header".toList,
   "hr".toList, "html".toList, "iframe".toList, "legend".toList, "li".toList, "link".toList,
   "main".toList, "menu".toList, "menuitem".toList, "nav".toList, "noframes".toList, "ol".toList,
   "optgroup".toList, "option".toList, "p".toList, "param".toList, "search".toList,
   "section".toList, "summary".toList, "table".toList, "tbody".toList, "td".toList,
   "tfoot".toList, "th".toList, "thead".toList, "title".toList, "tr".toList, "track".toList,
   "ul".toList]

/-- The text after a name in any case at the head of a text. -/
def afterName? (name t : Text) : Option Text :=
  (Text.after? name ((t.take name.length).map foldLetter)).map fun _ => t.drop name.length

/-- Whether a name from a list is at the head of a text, and a test holds for what follows. -/
def startsWithName (names : List Text) (follows : Text → Bool) (t : Text) : Bool :=
  names.any fun name =>
    match afterName? name t with
    | some rest => follows rest
    | none => false

def endsName : Text → Bool
  | [] => true
  | c :: _ => isBlank c || c == '>'

/-- Whether the name of a block element may end here. -/
def endsBlockName : Text → Bool
  | '/' :: '>' :: _ => true
  | t => endsName t

def isLoneTag (line : Text) : Bool :=
  (Pattern.orElse openTag closeTag line).any fun rest => rest.all isBlank

/-- The kind of HTML block that a line without its indentation begins. -/
def opening? (line : Text) : Option Opening :=
  match line with
  | '<' :: rest =>
    if startsWithName verbatimNames endsName rest then some ⟨.verbatim, true⟩
    else if Text.startsWith rest ['!', '-', '-'] then some ⟨.mark ['-', '-', '>'], true⟩
    else if Text.startsWith rest ['?'] then some ⟨.mark ['?', '>'], true⟩
    else if (match rest with | '!' :: c :: _ => 'A' ≤ c && c ≤ 'Z' | _ => false) then
      some ⟨.mark ['>'], true⟩
    else if Text.startsWith rest "![CDATA[".toList then some ⟨.mark [']', ']', '>'], true⟩
    else if startsWithName blockNames endsBlockName ((Text.after? ['/'] rest).getD rest) then
      some ⟨.emptyLine, true⟩
    else if isLoneTag line then some ⟨.emptyLine, false⟩
    else none
  | _ => none

/-- Whether a closing tag of verbatim text occurs in a line. -/
def closesVerbatim : Text → Bool
  | [] => false
  | '<' :: '/' :: rest =>
    startsWithName verbatimNames (Text.startsWith · ['>']) rest || closesVerbatim ('/' :: rest)
  | _ :: rest => closesVerbatim rest

def Ending.holds (ending : Ending) (line : Text) : Bool :=
  match ending with
  | .mark text => Text.includes line text
  | .verbatim => closesVerbatim line
  | .emptyLine => line.isEmpty

end DocComment.Markdown.Html
