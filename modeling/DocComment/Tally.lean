/- Counts over models: how many there are, how many have an abstract or a discussion, and how many
entries each kind of tag has in all of them. Kinds of tag come in the order in which they are first met.
A model is counted as the members of its JSON object. -/
import DocComment.Record

namespace DocComment

set_option autoImplicit false

inductive LengthFault where
  | ofNull
  | ofBool
  | ofInt
  deriving DecidableEq, Repr

def LengthFault.message (fault : LengthFault) : Text :=
  let name := match fault with
    | .ofNull => "NoneType".toList
    | .ofBool => "bool".toList
    | .ofInt => "int".toList
  "object of type '".toList ++ name ++ "' has no len()".toList

/-- How many items, members or characters a value has. -/
def Json.length : Json → Except LengthFault Nat
  | .null => .error .ofNull
  | .bool _ => .error .ofBool
  | .int _ => .error .ofInt
  | .str t => .ok t.length
  | .arr items => .ok items.length
  | .obj members => .ok members.length

structure Tally where
  files : Nat := 0
  withAbstract : Nat := 0
  withDiscussion : Nat := 0
  counts : List (Text × Nat) := []
  deriving DecidableEq, Repr

namespace Tally

def addCount (key : Text) (n : Nat) : List (Text × Nat) → List (Text × Nat)
  | [] => [(key, n)]
  | (other, count) :: counts =>
    if other = key then (other, count + n) :: counts else (other, count) :: addCount key n counts

/-- Whether a member holds a section rather than a kind of tag. -/
def isSection (key : Text) : Bool := key == "abstract".toList || key == "discussion".toList

/-- The entries that a member stands for. A request body is one, whatever is in it. -/
def entries (key : Text) (value : Json) : Except LengthFault Nat :=
  if key = "httpBody".toList then .ok 1 else value.length

/-- Counts with the tags of one model. -/
def addMembers : List (Text × Nat) → Fields → Except LengthFault (List (Text × Nat))
  | counts, [] => .ok counts
  | counts, (key, value) :: members =>
    if isSection key then addMembers counts members
    else do
      let n ← entries key value
      addMembers (addCount key n counts) members

def add (tally : Tally) (members : Fields) : Except LengthFault Tally := do
  let counts ← addMembers tally.counts members
  .ok
    { files := tally.files + 1
      withAbstract := tally.withAbstract + (if (members.lookup "abstract".toList).isSome then 1 else 0)
      withDiscussion :=
        tally.withDiscussion + (if (members.lookup "discussion".toList).isSome then 1 else 0)
      counts }

def addAll : Tally → List Fields → Except LengthFault Tally
  | tally, [] => .ok tally
  | tally, members :: rest => do
    let tally ← tally.add members
    tally.addAll rest

def ofModels (models : List Fields) : Except LengthFault Tally := Tally.addAll {} models

def ofRecords (records : List Record) : Except LengthFault Tally :=
  ofModels (records.map fun r => r.documentation.fields)

end Tally

end DocComment
