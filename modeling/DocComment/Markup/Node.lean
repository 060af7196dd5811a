/- The markup tree and the places in its source. -/
import DocComment.Json
import DocComment.Markup.Kind

namespace DocComment

set_option autoImplicit false

/-- A place in the source. Lines and columns count from one. Columns are integers, because a place
inside a line is computed from the lengths of what is written there. -/
structure Position where
  line : Int
  column : Int
  deriving DecidableEq, Repr

/-- A stretch of the source; the last column is not part of it. -/
structure Range where
  start : Position
  stop : Position
  deriving DecidableEq, Repr

/-- One node of a markup tree. -/
structure Node where
  kind : Kind
  children : List Node := []
  content : Text := []
  markup : Text := []
  info : Text := []
  attrs : Fields := []
  traits : Fields := []
  range : Option Range := none
  deriving Inhabited, Repr

namespace Node

def plain (content : Text) : Node := { kind := .text, content }

def paragraph (inlines : List Node) (range : Option Range) : Node :=
  { kind := .paragraph, children := inlines, range }

def document (blocks : List Node) : Node := { kind := .root, children := blocks }

def withChildren (node : Node) (children : List Node) : Node := { node with children }

/-- The level of a heading; one if none is given. -/
def level (node : Node) : Int :=
  match node.traits.lookup "level".toList with
  | some (.int n) => n
  | _ => 1

/-- Whether the items of a list follow each other without empty lines. -/
def isTight (node : Node) : Bool :=
  match node.traits.lookup "tight".toList with
  | some value => value.holds
  | none => true

/-- The number of the first item of an ordered list. -/
def firstNumber (node : Node) : Int :=
  match node.attrs.lookup "start".toList with
  | some (.int n) => n
  | _ => 1

/-- The name of a directive, or of the parameter that a command describes. -/
def name (node : Node) : Text :=
  match node.traits.lookup "name".toList with
  | some (.str t) => t
  | _ => []

/-- The arguments of a directive, if it was written with parentheses. -/
def arguments (node : Node) : Option Text :=
  match node.traits.lookup "arguments".toList with
  | some (.str t) => some t
  | _ => none

/-- The text of an attribute; empty if there is none. -/
def attr (node : Node) (key : Text) : Text :=
  match node.attrs.lookup key with
  | some (.str t) => t
  | _ => []

end Node

end DocComment
