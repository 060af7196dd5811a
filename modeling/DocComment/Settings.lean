/- Settings of the program. They come from the environment and from a file of assignments; a variable
that the environment has, even an empty one, is not taken from the file. -/
import DocComment.Processor
import DocComment.Settings.EnvFile

namespace DocComment

set_option autoImplicit false

abbrev Environment := List (Text × Text)

structure Settings where
  sourceDirectory : Text
  extensions : List Text
  skipHidden : Bool
  upTo : Section
  commands : Bool
  stripComments : Bool
  /-- The columns by which JSON text is indented for each level. -/
  indent : Int
  deriving DecidableEq, Repr

namespace Settings

def variableName (setting : Text) : Text := "DOC_MARKUP_".toList ++ setting

/-- The settings that have a variable. -/
def variableNames : List Text :=
  ["SOURCE_DIR".toList, "FILE_EXTENSIONS".toList, "SKIP_HIDDEN_FILES".toList,
   "PARSE_UP_TO".toList, "DOC_COMMANDS".toList, "STRIP_COMMENTS".toList,
   "JSON_INDENT".toList].map variableName

/-- The value of a setting, or what it is by default. -/
def value (environment : Environment) (bindings : List EnvFile.Binding) (setting default : Text) :
    Text :=
  let name := variableName setting
  (environment.lookup name <|> EnvFile.valueOf bindings name).getD default

def isOn (value : Text) : Bool := Text.lower value == "true".toList

/-- The settings that an environment and a file of assignments give. -/
def load (environment : Environment) (bindings : List EnvFile.Binding) :
    Reported (Except IntegerFault Settings) :=
  let value := fun (setting default : String) =>
    Settings.value environment bindings setting.toList default.toList
  let sectionName := value "PARSE_UP_TO" "end"
  let found := Section.ofName? sectionName
  ⟨if found.isNone then [.unknownSection sectionName] else [],
    (Text.toInteger (value "JSON_INDENT" "2")).map fun indent =>
      { sourceDirectory := value "SOURCE_DIR" "./docs"
        extensions := Text.splitOn ',' (value "FILE_EXTENSIONS" ".md,.markdown,.txt")
        skipHidden := isOn (value "SKIP_HIDDEN_FILES" "true")
        upTo := found.getD .ending
        commands := isOn (value "DOC_COMMANDS" "true")
        stripComments := isOn (value "STRIP_COMMENTS" "true")
        indent }⟩

def layout (settings : Settings) : Json.Layout := .indented settings.indent.toNat

end Settings

end DocComment
