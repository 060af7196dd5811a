/- The grammar of command lines. Words that begin with a dash name options, in full, by a beginning that
only one option has, or, for options of one letter, several in one word; a value follows an equals sign
or is the next word. Two dashes alone end the options. All words are classified before any of them takes
effect, so an ambiguous option is refused first; after that the words take effect in their order. -/
import DocComment.Text.Character
import DocComment.Text.Quoted

namespace DocComment.CommandLine

set_option autoImplicit false

inductive Purpose where
  | help
  | upTo
  | keepComments
  | plainMarkup
  | config
  | verbose
  | output
  deriving DecidableEq, Repr

structure Switch where
  purpose : Purpose
  /-- Its spellings, with their dashes. -/
  names : List Text
  takesValue : Bool := false
  /-- The values it may have; any if there are none. -/
  choices : List Text := []
  deriving DecidableEq, Repr

def Switch.title (s : Switch) : Text := Text.joinWith ['/'] s.names

/-- A program, or one of its commands. -/
structure Command where
  /-- The words by which it is called. -/
  program : Text
  switches : List Switch
  usage : Text
  /-- What is printed after the usage if help is asked for. -/
  details : Text
  deriving DecidableEq, Repr

def Command.help (c : Command) : Text := c.usage ++ c.details

inductive Misuse where
  | ambiguous (word : Text) (names : List Text)
  | ignoredValue (title value : Text)
  | missingValue (title : Text)
  | invalidChoice (title value : Text) (choices : List Text)
  | unrecognized (words : List Text)
  deriving DecidableEq, Repr

def Misuse.message : Misuse → Text
  | .ambiguous word names =>
    "ambiguous option: ".toList ++ word ++ " could match ".toList ++ Text.joinWith [',', ' '] names
  | .ignoredValue title value =>
    "argument ".toList ++ title ++ ": ignored explicit argument ".toList ++ Text.quoted value
  | .missingValue title => "argument ".toList ++ title ++ ": expected one argument".toList
  | .invalidChoice title value choices =>
    "argument ".toList ++ title ++ ": invalid choice: ".toList ++ Text.quoted value ++
      " (choose from ".toList ++ Text.joinWith [',', ' '] (choices.map Text.quoted) ++ [')']
  | .unrecognized words => "unrecognized arguments: ".toList ++ Text.joinWith [' '] words

/-- Why reading a command line ends early. -/
inductive Stop where
  | help (command : Command)
  | misuse (command : Command) (misuse : Misuse)
  deriving DecidableEq, Repr

/-- A value that is part of the word that names the option. -/
structure Attached where
  /-- Whether an equals sign stands before it. -/
  marked : Bool
  value : Text
  deriving DecidableEq, Repr

/-- An option as it is named by a word. -/
structure Use where
  switch : Switch
  name : Text
  attached : Option Attached := none
  deriving DecidableEq, Repr

inductive Word where
  | plain (text : Text)
  /-- The two dashes that end the options. -/
  | dashes
  /-- A word that looks like an option. It may be none that the command knows. -/
  | option (text : Text) (use : Option Use)
  deriving DecidableEq, Repr

def Word.text : Word → Text
  | .plain text | .option text _ => text
  | .dashes => ['-', '-']

namespace Command

def spellings (c : Command) : List (Text × Switch) :=
  c.switches.flatMap fun s => s.names.map fun name => (name, s)

/-- The option with exactly this spelling. -/
def switch? (c : Command) (name : Text) : Option Switch := c.spellings.lookup name

/-- A word at its first equals sign. -/
def cutValue (word : Text) : Text × Option Attached :=
  match Text.cutAt? '=' word with
  | none => (word, none)
  | some (name, value) => (name, some ⟨true, value⟩)

/-- The options that a word with two dashes can stand for. -/
def longUses (c : Command) (word : Text) : List Use :=
  let (name, attached) := cutValue word
  c.spellings.filterMap fun (spelling, s) =>
    if Text.startsWith spelling name then some ⟨s, spelling, attached⟩ else none

/-- The options that a word with one dash can stand for. -/
def shortUses (c : Command) (word : Text) : List Use :=
  c.spellings.filterMap fun (spelling, s) =>
    if spelling = word.take 2 then some ⟨s, spelling, some ⟨false, word.drop 2⟩⟩
    else if Text.startsWith spelling word then some ⟨s, spelling, none⟩
    else none

/-- Whether a word is a negative number. One newline at its end does not count. -/
def isNegative (word : Text) : Bool :=
  let isDigit := fun c => (decimalValue? c).isSome
  match (Text.before? ['\n'] word).getD word with
  | '-' :: number =>
    let whole := number.takeWhile isDigit
    match number.drop whole.length with
    | [] => !whole.isEmpty
    | '.' :: fraction => !fraction.isEmpty && fraction.all isDigit
    | _ => false
  | _ => false

/-- What a word that comes before the end of the options is. -/
def classify (c : Command) (word : Text) : Except Misuse Word :=
  match word with
  | '-' :: d :: _ =>
    match c.switch? word with
    | some s => .ok (.option word (some ⟨s, word, none⟩))
    | none =>
      let (name, attached) := cutValue word
      match attached, c.switch? name with
      | some value, some s => .ok (.option word (some ⟨s, name, some value⟩))
      | _, _ =>
        match if d = '-' then c.longUses word else c.shortUses word with
        | [use] => .ok (.option word (some use))
        | use :: other :: uses => .error (.ambiguous word ((use :: other :: uses).map Use.name))
        | [] =>
          if isNegative word || word.contains ' ' then .ok (.plain word)
          else .ok (.option word none)
  | word => .ok (.plain word)

def classifyAll (c : Command) : List Text → Except Misuse (List Word)
  | [] => .ok []
  | word :: words =>
    if word = ['-', '-'] then .ok (.dashes :: words.map .plain)
    else do
      let first ← c.classify word
      let rest ← c.classifyAll words
      .ok (first :: rest)

end Command

/-- What has been read of a command line. -/
structure Reading where
  /-- The options that were used, with their values, in order. -/
  used : List (Purpose × Text) := []
  /-- The argument that is no option. -/
  argument : Option Text := none
  /-- The words for which there is no place. -/
  extras : List Text := []
  deriving DecidableEq, Repr

namespace Command

/-- The options of one letter in a word, after one that was met already: those that are known, in order,
with the value of the last one, and the rest of the word if it begins with one that is not known. -/
def letters (c : Command) (s : Switch) (marked : Bool) :
    Text → Except Misuse (List (Switch × Text) × List Text)
  | [] => if s.takesValue then .ok ([(s, [])], []) else .error (.ignoredValue s.title [])
  | d :: rest =>
    if s.takesValue then .ok ([(s, d :: rest)], [])
    else if marked || d = '-' then .error (.ignoredValue s.title (d :: rest))
    else
      match c.switch? ['-', d] with
      | none => .ok ([(s, [])], [('-' :: d :: rest)])
      | some next =>
        match rest with
        | [] => .ok ([(s, []), (next, [])], [])
        | '=' :: value => do
          let (more, extras) ← c.letters next true value
          .ok ((s, []) :: more, extras)
        | rest => do
          let (more, extras) ← c.letters next false rest
          .ok ((s, []) :: more, extras)

/-- The options that a word with an attached value stands for. -/
def attachedUses (c : Command) (use : Use) (a : Attached) :
    Except Misuse (List (Switch × Text) × List Text) :=
  if use.switch.takesValue then .ok ([(use.switch, a.value)], [])
  else
    match use.name with
    | '-' :: '-' :: _ => .error (.ignoredValue use.switch.title a.value)
    | _ => c.letters use.switch a.marked a.value

/-- Lets options take effect: help ends the reading, and a value has to be one of the choices. -/
def apply (c : Command) : List (Switch × Text) → Except Stop (List (Purpose × Text))
  | [] => .ok []
  | (s, value) :: rest =>
    if s.purpose = .help then .error (.help c)
    else if s.takesValue && !s.choices.isEmpty && !s.choices.contains value then
      .error (.misuse c (.invalidChoice s.title value s.choices))
    else do
      let used ← c.apply rest
      .ok ((s.purpose, value) :: used)

def refuse {α : Type} (c : Command) : Except Misuse α → Except Stop α
  | .ok a => .ok a
  | .error misuse => .error (.misuse c misuse)

/-- An option and the word after it, from which it may take its value. Says whether that word was
taken. -/
def useOption (c : Command) (use : Use) (next : Option Word) :
    Except Stop (List (Purpose × Text) × List Text × Bool) :=
  match use.attached with
  | some a => do
    let (uses, extras) ← c.refuse (c.attachedUses use a)
    let used ← c.apply uses
    .ok (used, extras, false)
  | none =>
    if use.switch.takesValue then
      match next with
      | some (.plain value) => do
        let used ← c.apply [(use.switch, value)]
        .ok (used, [], true)
      | _ => .error (.misuse c (.missingValue use.switch.title))
    else do
      let used ← c.apply [(use.switch, [])]
      .ok (used, [], false)

/-- Reads the words of a command with one argument, which may be missing. `free` says whether the
argument is yet to come. Dashes right before or after the argument are dropped with it. -/
def readWords (c : Command) (free : Bool) : List Word → Except Stop Reading
  | [] => .ok {}
  | .plain text :: .dashes :: words => do
    let rest ← c.readWords false words
    if free then .ok { rest with argument := some text }
    else .ok { rest with extras := text :: ['-', '-'] :: rest.extras }
  | .plain text :: words => do
    let rest ← c.readWords false words
    if free then .ok { rest with argument := some text }
    else .ok { rest with extras := text :: rest.extras }
  | .dashes :: words =>
    if free then c.readWords true words
    else do
      let rest ← c.readWords false words
      .ok { rest with extras := ['-', '-'] :: rest.extras }
  | .option text none :: words => do
    let rest ← c.readWords free words
    .ok { rest with extras := text :: rest.extras }
  | .option _ (some use) :: [] => do
    let (used, extras, _) ← c.useOption use none
    .ok { used, extras }
  | .option _ (some use) :: next :: words => do
    let (used, extras, taken) ← c.useOption use (some next)
    let rest ← if taken then c.readWords free words else c.readWords free (next :: words)
    .ok { rest with used := used ++ rest.used, extras := extras ++ rest.extras }

def read (c : Command) (words : List Text) : Except Stop Reading := do
  let words ← c.refuse (c.classifyAll words)
  c.readWords true words

end Command

/-- What has been read of the words before a command. -/
structure Opening where
  /-- The name of the command and the words after it. -/
  command : Option (Text × List Text) := none
  extras : List Text := []
  deriving DecidableEq, Repr

namespace Command

/-- Reads the words of a program up to the name of its command. Dashes before the name are taken for the
name. -/
def readOpening (c : Command) : List Word → Except Stop Opening
  | [] => .ok {}
  | .plain text :: words => .ok { command := some (text, words.map Word.text) }
  | [.dashes] => .ok { extras := [['-', '-']] }
  | .dashes :: words => .ok { command := some (['-', '-'], words.map Word.text) }
  | .option text none :: words => do
    let rest ← c.readOpening words
    .ok { rest with extras := text :: rest.extras }
  | .option _ (some use) :: words => do
    let (_, extras, _) ← c.useOption use none
    let rest ← c.readOpening words
    .ok { rest with extras := extras ++ rest.extras }

end Command

end DocComment.CommandLine
