/- Files that assign values to names, one assignment a line. A line may begin with the word `export`; a
number sign begins a comment, in a plain value only after a blank. A value may stand in quotation marks,
single or double, and then keeps its blanks. A name without an equals sign has no value. A line that is
none of this is skipped. -/
import DocComment.Text.Blank

namespace DocComment.EnvFile

set_option autoImplicit false

/-- A name, and its value if the line gives one. -/
structure Binding where
  name : Text
  value : Option Text
  deriving DecidableEq, Repr

/-- Whether a character separates without ending the line. -/
def isGap (c : Char) : Bool := isBlank c && c != '\n'

def skipGap (t : Text) : Text := t.dropWhile isGap

/-- A text without the word that may stand before a name. -/
def skipExport (t : Text) : Text :=
  match Text.after? "export".toList t with
  | some rest => if (rest.head?.map isGap).getD false then skipGap rest else t
  | none => t

/-- What is left of a line once its assignment was read, if that is nothing but a comment. -/
def lineEnd? (t : Text) : Option Text :=
  let rest :=
    match skipGap t with
    | '#' :: rest => rest.dropWhile (· != '\n')
    | rest => rest
  match rest with
  | [] => some []
  | '\n' :: rest => some rest
  | _ => none

def dropComment : Text → Text
  | [] => []
  | c :: rest =>
    if isBlank c then
      match Text.trimLeft rest with
      | '#' :: _ => []
      | _ => c :: dropComment rest
    else c :: dropComment rest

/-- The value after an equals sign, and what follows it. None if a quotation mark is not closed. -/
def value? (t : Text) : Option (Text × Text) :=
  match t with
  | '\'' :: rest => Text.cutAt? '\'' rest
  | '"' :: rest => Text.cutAt? '"' rest
  | t =>
    let line := t.takeWhile (· != '\n')
    some (Text.trimRight (dropComment line), t.drop line.length)

/-- The name at the beginning of a text, and what follows it. A name may stand in single quotation marks. -/
def name? (t : Text) : Option (Text × Text) :=
  match t with
  | '\'' :: rest =>
    match Text.cutAt? '\'' rest with
    | some (c :: name, rest) => some (c :: name, rest)
    | _ => none
  | t =>
    let name := t.takeWhile fun c => !isBlank c && c != '=' && c != '#'
    if name.isEmpty then none else some (name, t.drop name.length)

def skipLine (t : Text) : Text := (t.dropWhile (· != '\n')).drop 1

/-- An assignment, if its line ends here, and the lines after it. -/
def finish (binding : Binding) (t : Text) : Option Binding × Text :=
  match lineEnd? t with
  | some rest => (some binding, rest)
  | none => (none, skipLine t)

/-- The assignment at the beginning of a text, and the lines after it. -/
def readBinding (t : Text) : Option Binding × Text :=
  let t := skipExport t
  match name? t with
  | none => (none, skipLine t)
  | some (name, rest) =>
    match skipGap rest with
    | '=' :: rest =>
      let rest := skipGap rest
      match value? rest with
      | none => (none, skipLine rest)
      | some (value, rest) => finish ⟨name, some value⟩ rest
    | rest => finish ⟨name, none⟩ rest

/-- The assignments of a text, of at most `count` lines. -/
def bindingsOf : Nat → Text → List Binding
  | 0, _ => []
  | count + 1, t =>
    match Text.trimLeft t with
    | [] => []
    | t =>
      let (binding, rest) := readBinding t
      binding.toList ++ bindingsOf count rest

/-- The assignments of a text whose line breaks are newlines. -/
def bindings (t : Text) : List Binding := bindingsOf (t.length + 1) t

/-- The value of a name: what the last line that mentions it says. -/
def valueOf (bindings : List Binding) (name : Text) : Option Text :=
  (bindings.reverse.find? fun b => b.name == name).bind Binding.value

end DocComment.EnvFile
