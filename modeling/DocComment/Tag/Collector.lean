/- The collector gathers the tags of one documentation comment: the table so far, and the nodes that
went into it. -/
import DocComment.Markup.Node
import DocComment.Tag.Record

namespace DocComment

set_option autoImplicit false

/-- The tags found so far, and the nodes they were made from. -/
structure Collector where
  table : TagTable := {}
  consumed : List Node := []
  deriving Repr

namespace Collector

/-- Notes that a node was turned into tags. -/
def consume (c : Collector) (node : Node) : Collector := { c with consumed := c.consumed ++ [node] }

def addParameter (c : Collector) (p : Parameter) : Collector :=
  { c with table.parameters := c.table.parameters ++ [p] }

def addReturns (c : Collector) (contents : Contents) : Collector :=
  { c with table.returns := c.table.returns ++ [contents] }

def addThrows (c : Collector) (contents : Contents) : Collector :=
  { c with table.throws := c.table.throws ++ [contents] }

def addHttpResponse (c : Collector) (r : HttpResponse) : Collector :=
  { c with table.httpResponses := c.table.httpResponses ++ [r] }

def addHttpParameter (c : Collector) (p : HttpParameter) : Collector :=
  { c with table.httpParameters := c.table.httpParameters ++ [p] }

/-- The body so far; an empty one if none was declared. -/
def body (c : Collector) : HttpBody := c.table.httpBody.getD {}

def declareHttpBody (c : Collector) : Collector := { c with table.httpBody := some c.body }

/-- Sets the contents of the body. Earlier contents are replaced, its parameters stay. -/
def setHttpBody (c : Collector) (contents : Contents) : Collector :=
  { c with table.httpBody := some { c.body with contents } }

/-- Adds a parameter of the body, which is declared by that. -/
def addHttpBodyParameter (c : Collector) (p : HttpParameter) : Collector :=
  { c with table.httpBody := some { c.body with parameters := c.body.parameters ++ [p] } }

def addSimple (c : Collector) (t : SimpleTag) : Collector :=
  { c with table.others := c.table.others ++ [t] }

end Collector

end DocComment
