/- Records of tags, and the table that holds all of one documentation comment. As JSON an absent part
and an empty collection are left out; a body that was declared is written even if nothing is in it. -/
import DocComment.Json

namespace DocComment

set_option autoImplicit false

/-- The rendered blocks of a tag, one text each. -/
abbrev Contents := List Text

structure Parameter where
  name : Text
  contents : Contents := []
  /-- Whether the parameter has a tag of its own rather than an entry in an outline. -/
  standalone : Bool := false
  deriving DecidableEq, Repr

/-- A reference to a symbol outside the comment. -/
structure SymbolRef where
  identifier : Text
  deriving DecidableEq, Repr

structure HttpResponse where
  /-- Zero if the code as written is no number. -/
  status : Int := 0
  reason : Option Text := none
  mediaType : Option Text := none
  contents : Contents := []
  /-- The symbol that stands for the response. It is not written. -/
  symbol : Option SymbolRef := none
  deriving DecidableEq, Repr

/-- A parameter of an HTTP endpoint or of its request body. -/
structure HttpParameter where
  name : Text
  source : Option Text := none
  contents : Contents := []
  required : Bool := true
  /-- The symbol that stands for the parameter. It is not written. -/
  symbol : Option SymbolRef := none
  deriving DecidableEq, Repr

structure HttpBody where
  mediaType : Option Text := none
  contents : Contents := []
  parameters : List HttpParameter := []
  /-- The symbol that stands for the body. It is not written. -/
  symbol : Option SymbolRef := none
  deriving DecidableEq, Repr

/-- A tag that only passes through. -/
structure SimpleTag where
  name : Text
  contents : Contents := []
  deriving DecidableEq, Repr

/-- All tags of a documentation comment, each collection in the order of the source. -/
structure TagTable where
  parameters : List Parameter := []
  httpResponses : List HttpResponse := []
  httpParameters : List HttpParameter := []
  httpBody : Option HttpBody := none
  returns : List Contents := []
  throws : List Contents := []
  others : List SimpleTag := []
  deriving DecidableEq, Repr

/-- A member that is written only if there is a text. -/
def optionalMember (key : Text) : Option Text → Fields
  | none => []
  | some t => [(key, .str t)]

/-- A member that is written only if the array has items. -/
def arrayMember (key : Text) (items : List Json) : Fields :=
  if items.isEmpty then [] else [(key, .arr items)]

def contentsMember (contents : Contents) : Fields := [("contents".toList, Json.texts contents)]

def Parameter.toJson (p : Parameter) : Json :=
  .obj (("name".toList, .str p.name) :: contentsMember p.contents)

def HttpResponse.toJson (r : HttpResponse) : Json :=
  .obj (("statusCode".toList, .int r.status) :: (optionalMember "reason".toList r.reason ++
    optionalMember "mediaType".toList r.mediaType ++ contentsMember r.contents))

def HttpParameter.toJson (p : HttpParameter) : Json :=
  .obj (("name".toList, .str p.name) :: (optionalMember "source".toList p.source ++
    contentsMember p.contents ++ [("required".toList, .bool p.required)]))

def HttpBody.toJson (b : HttpBody) : Json :=
  .obj (optionalMember "mediaType".toList b.mediaType ++ contentsMember b.contents ++
    arrayMember "parameters".toList (b.parameters.map HttpParameter.toJson))

def SimpleTag.toJson (t : SimpleTag) : Json :=
  .obj (("tag".toList, .str t.name) :: contentsMember t.contents)

namespace TagTable

/-- Whether no tag was found. A body counts even if it is empty. -/
def isEmpty (table : TagTable) : Bool :=
  table.parameters.isEmpty && table.httpResponses.isEmpty && table.httpParameters.isEmpty &&
    table.httpBody.isNone && table.returns.isEmpty && table.throws.isEmpty && table.others.isEmpty

def fields (table : TagTable) : Fields :=
  arrayMember "parameters".toList (table.parameters.map Parameter.toJson) ++
  arrayMember "httpResponses".toList (table.httpResponses.map HttpResponse.toJson) ++
  arrayMember "httpParameters".toList (table.httpParameters.map HttpParameter.toJson) ++
  (match table.httpBody with
    | none => []
    | some body => [("httpBody".toList, body.toJson)]) ++
  arrayMember "returns".toList (table.returns.map Json.texts) ++
  arrayMember "throws".toList (table.throws.map Json.texts) ++
  arrayMember "otherTags".toList (table.others.map SimpleTag.toJson)

def toJson (table : TagTable) : Json := .obj table.fields

end TagTable

end DocComment
