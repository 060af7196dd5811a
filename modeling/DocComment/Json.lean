/- JSON values without fractions, and their text. Members of an object keep their order. In running
text items are set apart by a comma and a space; indented text has each item on a line of its own. -/
import DocComment.Text.Quoted

namespace DocComment

set_option autoImplicit false

inductive Json where
  | null
  | bool (value : Bool)
  | int (value : Int)
  | str (value : Text)
  | arr (items : List Json)
  | obj (members : List (Text × Json))
  deriving Inhabited, Repr

namespace Json

def texts (items : List Text) : Json := .arr (items.map .str)

def optionalText : Option Text → Json
  | none => .null
  | some t => .str t

/-- Whether a value counts as true: it is not null, false, zero or empty. -/
def holds : Json → Bool
  | .null => false
  | .bool b => b
  | .int n => n != 0
  | .str t => !t.isEmpty
  | .arr items => !items.isEmpty
  | .obj members => !members.isEmpty

/-- The text between the quotation marks of a string: quotation marks, backslashes and control
characters are escaped, all else stands as it is. -/
def escape (c : Char) : Text :=
  if c = '"' then ['\\', '"']
  else if c = '\\' then ['\\', '\\']
  else if c = '\n' then ['\\', 'n']
  else if c = '\r' then ['\\', 'r']
  else if c = '\t' then ['\\', 't']
  else if c.toNat = 0x0C then ['\\', 'f']
  else if c.toNat = 0x08 then ['\\', 'b']
  else if c.toNat < 0x20 then '\\' :: 'u' :: Text.hex 4 c.toNat
  else [c]

def string (t : Text) : Text := '"' :: (t.flatMap escape ++ ['"'])

/-- How the items of an array or object are laid out. -/
inductive Layout where
  /-- All on one line. -/
  | running
  /-- Each on a line of its own, indented by a number of columns for each level. -/
  | indented (width : Nat)
  deriving DecidableEq, Repr

def lineBreak (width depth : Nat) : Text := '\n' :: List.replicate (width * depth) ' '

def enclose (layout : Layout) (depth : Nat) (left right : Char) (items : List Text) : Text :=
  if items.isEmpty then [left, right]
  else
    match layout with
    | .running => left :: (Text.joinWith [',', ' '] items ++ [right])
    | .indented width =>
      left :: (lineBreak width (depth + 1) ++
        Text.joinWith (',' :: lineBreak width (depth + 1)) items ++ lineBreak width depth ++ [right])

mutual

def printAt (layout : Layout) (depth : Nat) : Json → Text
  | .null => "null".toList
  | .bool b => if b then "true".toList else "false".toList
  | .int n => Text.ofInt n
  | .str t => string t
  | .arr items => enclose layout depth '[' ']' (printItems layout (depth + 1) items)
  | .obj members => enclose layout depth '{' '}' (printMembers layout (depth + 1) members)

def printItems (layout : Layout) (depth : Nat) : List Json → List Text
  | [] => []
  | item :: items => printAt layout depth item :: printItems layout depth items

def printMembers (layout : Layout) (depth : Nat) : List (Text × Json) → List Text
  | [] => []
  | (key, value) :: members =>
    (string key ++ [':', ' '] ++ printAt layout depth value) :: printMembers layout depth members

end

def print (layout : Layout) (value : Json) : Text := printAt layout 0 value

end Json

/-- Named values in the order in which they were given. -/
abbrev Fields := List (Text × Json)

end DocComment
