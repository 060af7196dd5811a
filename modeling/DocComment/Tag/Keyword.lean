/- Tag names. A keyword stands first, in any case; some keywords take the rest of the name as their
argument and are no keywords without one. Beside them there are names that only pass through. -/
import DocComment.Text.Blank
import DocComment.Text.Case

namespace DocComment

set_option autoImplicit false

/-- The tags that have a record of their own. -/
inductive Keyword where
  | returns
  | throws
  | parameter
  | parameters
  | httpBody
  | httpResponse
  | httpResponses
  | httpParameter
  | httpParameters
  | httpBodyParameter
  | httpBodyParameters
  deriving DecidableEq, Repr

namespace Keyword

def all : List Keyword :=
  [returns, throws, parameter, parameters, httpBody, httpResponse, httpResponses, httpParameter,
   httpParameters, httpBodyParameter, httpBodyParameters]

def word : Keyword → Text
  | returns => "returns".toList
  | throws => "throws".toList
  | parameter => "parameter".toList
  | parameters => "parameters".toList
  | httpBody => "httpbody".toList
  | httpResponse => "httpresponse".toList
  | httpResponses => "httpresponses".toList
  | httpParameter => "httpparameter".toList
  | httpParameters => "httpparameters".toList
  | httpBodyParameter => "httpbodyparameter".toList
  | httpBodyParameters => "httpbodyparameters".toList

/-- The keyword that is spelled by a word in lower case. -/
def ofWord? (word : Text) : Option Keyword := all.find? fun keyword => keyword.word == word

def takesArgument : Keyword → Bool
  | parameter | httpResponse | httpParameter | httpBodyParameter => true
  | _ => false

/-- Whether the tag has its entries in a nested list. -/
def isOutline : Keyword → Bool
  | parameters | httpResponses | httpParameters | httpBodyParameters => true
  | _ => false

end Keyword

/-- A tag name that was recognised. -/
structure KnownTag where
  keyword : Keyword
  argument : Option Text := none
  deriving DecidableEq, Repr

namespace TagName

/-- The tag that a name stands for. The argument keeps its case. -/
def classify (name : Text) : Option KnownTag :=
  let (word, argument) := Text.firstWord name
  match Keyword.ofWord? (Text.lower word) with
  | none => none
  | some keyword =>
    if keyword.takesArgument then
      let argument := Text.trim argument
      if argument.isEmpty then none else some { keyword, argument := some argument }
    else some { keyword }

def simpleNames : List Text :=
  ["attention".toList, "author".toList, "authors".toList, "bug".toList, "complexity".toList,
   "copyright".toList, "date".toList, "experiment".toList, "invariant".toList,
   "localizationkey".toList, "mutatingvariant".toList, "nonmutatingvariant".toList,
   "postcondition".toList, "precondition".toList, "remark".toList, "remarks".toList,
   "returns".toList, "throws".toList, "requires".toList, "since".toList, "tag".toList,
   "todo".toList, "version".toList, "keyword".toList, "recommended".toList,
   "recommendedover".toList]

def isSimple (name : Text) : Bool := simpleNames.contains (Text.lower (Text.trim name))

end TagName

end DocComment
