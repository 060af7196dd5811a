/- What each node that is taken adds to the table of tags. A contribution is a function of the node
alone: one record for a command or a tag with content of its own, one record for each entry of an
outline. The table of a list of nodes (`tableOf`) has in each collection the contributions in order;
its body has the contents of the last body tag and the parameters of all tags that name one.

`record_eq` says that a step of the run adds exactly the contribution of its node, and `run_eq` says it
of a whole run. With that the harvest has a closed form (`harvest_closed`), and its table is the table of
the nodes it consumed (`harvest_table`). -/
import DocComment.Proofs.StatusCode
import DocComment.Proofs.Walk

namespace DocComment

set_option autoImplicit false

/-- What one node adds to a table. -/
structure Contribution where
  parameters : List Parameter := []
  httpResponses : List HttpResponse := []
  httpParameters : List HttpParameter := []
  returns : List Contents := []
  throws : List Contents := []
  others : List SimpleTag := []
  /-- Whether the node calls for a body. -/
  declaresBody : Bool := false
  /-- What the body contains instead of what it contained before. -/
  bodyContents : Option Contents := none
  bodyParameters : List HttpParameter := []
  deriving DecidableEq, Repr

namespace Contribution

/-- The contribution of an item whose name begins with a keyword. -/
def ofKnown (item : Node) (tag : TagItem) (known : KnownTag) : Contribution :=
  let contents := renderAll tag.contents
  let argument := known.argument.getD []
  let entries := TagItem.outline item
  let named := fun entry : TagItem =>
    ({ name := entry.name, contents := renderAll entry.contents } : HttpParameter)
  match known.keyword with
  | .returns => { returns := [contents] }
  | .throws => { throws := [contents] }
  | .parameter => { parameters := [{ name := argument, contents, standalone := true }] }
  | .parameters =>
    { parameters := entries.map fun entry =>
        { name := entry.name, contents := renderAll entry.contents, standalone := false } }
  | .httpBody => { declaresBody := true, bodyContents := some contents }
  | .httpResponse => { httpResponses := [{ status := statusValue argument, contents }] }
  | .httpResponses =>
    { httpResponses := entries.map fun entry =>
        { status := statusValue entry.name, contents := renderAll entry.contents } }
  | .httpParameter => { httpParameters := [{ name := argument, contents }] }
  | .httpParameters => { httpParameters := entries.map named }
  | .httpBodyParameter => { declaresBody := true, bodyParameters := [{ name := argument, contents }] }
  | .httpBodyParameters => { declaresBody := true, bodyParameters := entries.map named }

/-- The contribution of a node: of a command, of an item that is a tag, or none. -/
def ofNode (node : Node) : Contribution :=
  match node.kind with
  | .paramCommand =>
    { parameters :=
        [{ name := node.name, contents := renderAll node.children, standalone := true }] }
  | .returnsCommand => { returns := [renderAll node.children] }
  | _ =>
    match TagItem.ofNode? node with
    | none => {}
    | some tag =>
      match tag.known with
      | some known => ofKnown node tag known
      | none =>
        if TagName.isSimple tag.name then
          { others := [{ name := tag.name, contents := renderAll tag.contents }] }
        else {}

end Contribution

/-- The body that some nodes make up together, if one of them calls for it. -/
def bodyOf (nodes : List Node) : Option HttpBody :=
  if nodes.any fun node => (Contribution.ofNode node).declaresBody then
    some {
      contents := ((nodes.filterMap fun node => (Contribution.ofNode node).bodyContents).getLast?).getD []
      parameters := nodes.flatMap fun node => (Contribution.ofNode node).bodyParameters }
  else none

def tableOf (nodes : List Node) : TagTable where
  parameters := nodes.flatMap fun node => (Contribution.ofNode node).parameters
  httpResponses := nodes.flatMap fun node => (Contribution.ofNode node).httpResponses
  httpParameters := nodes.flatMap fun node => (Contribution.ofNode node).httpParameters
  httpBody := bodyOf nodes
  returns := nodes.flatMap fun node => (Contribution.ofNode node).returns
  throws := nodes.flatMap fun node => (Contribution.ofNode node).throws
  others := nodes.flatMap fun node => (Contribution.ofNode node).others

/-- The texts that an item with a keyword gives for status codes. -/
def KnownTag.statusTexts (known : KnownTag) (item : Node) : List Text :=
  match known.keyword with
  | .httpResponse => [known.argument.getD []]
  | .httpResponses => (TagItem.outline item).map TagItem.name
  | _ => []

def statusTexts (node : Node) : List Text :=
  match TagItem.ofNode? node with
  | none => []
  | some tag =>
    match tag.known with
    | none => []
    | some known => known.statusTexts node

def TagTable.add (table : TagTable) (k : Contribution) : TagTable where
  parameters := table.parameters ++ k.parameters
  httpResponses := table.httpResponses ++ k.httpResponses
  httpParameters := table.httpParameters ++ k.httpParameters
  httpBody :=
    if k.declaresBody then
      let body := table.httpBody.getD {}
      some { body with
        contents := k.bodyContents.getD body.contents
        parameters := body.parameters ++ k.bodyParameters }
    else table.httpBody
  returns := table.returns ++ k.returns
  throws := table.throws ++ k.throws
  others := table.others ++ k.others

/-! ## One step of the run -/

namespace Harvest

theorem addEntries_ok (add : Collector → TagItem → Collector) (c : Collector)
    (entries : List TagItem) :
    addEntries (fun c entry => .ok (add c entry)) c entries = .ok (entries.foldl add c) := by
  induction entries generalizing c with
  | nil => rfl
  | cons entry entries ih => exact ih (add c entry)

theorem foldl_addParameter (c : Collector) (entries : List TagItem) :
    entries.foldl (fun c entry => addParameter false c entry.name entry.contents) c =
      { c with table.parameters := c.table.parameters ++ entries.map fun entry =>
          { name := entry.name, contents := renderAll entry.contents, standalone := false } } := by
  induction entries generalizing c with
  | nil => simp
  | cons entry entries ih =>
      rw [List.foldl_cons, ih]
      simp [addParameter, Collector.addParameter]

theorem foldl_addHttpParameter (c : Collector) (entries : List TagItem) :
    entries.foldl (fun c entry => c.addHttpParameter
        { name := entry.name, contents := renderAll entry.contents }) c =
      { c with table.httpParameters := c.table.httpParameters ++ entries.map fun entry =>
          { name := entry.name, contents := renderAll entry.contents } } := by
  induction entries generalizing c with
  | nil => simp
  | cons entry entries ih =>
      rw [List.foldl_cons, ih]
      simp [Collector.addHttpParameter]

/-- Declaring a body and adding to it commute, so one declaration before the first parameter is enough. -/
theorem foldl_addHttpBodyParameter (c : Collector) (entries : List TagItem) :
    entries.foldl (fun c entry => c.addHttpBodyParameter
        { name := entry.name, contents := renderAll entry.contents }) c.declareHttpBody =
      { c with table.httpBody := some { c.body with
          parameters := c.body.parameters ++ entries.map fun entry =>
            { name := entry.name, contents := renderAll entry.contents } } } := by
  induction entries generalizing c with
  | nil => simp [Collector.declareHttpBody]
  | cons entry entries ih =>
      have next : c.declareHttpBody.addHttpBodyParameter
            { name := entry.name, contents := renderAll entry.contents } =
          (c.addHttpBodyParameter
            { name := entry.name, contents := renderAll entry.contents }).declareHttpBody := rfl
      rw [List.foldl_cons, next, ih]
      simp [Collector.addHttpBodyParameter, Collector.body]

theorem addResponse_eq (c : Collector) (code : Text) (contents : List Node) :
    addResponse c code contents =
      checked [code] (.ok (c.addHttpResponse
        { status := statusValue code, contents := renderAll contents })) := by
  rw [addResponse, statusCode_eq, checked_bind]
  rfl

/-- Codes are read one after the other, and the first one that is refused ends the whole. -/
theorem addEntries_addResponse (c : Collector) (entries : List TagItem) :
    addEntries (fun c entry => addResponse c entry.name entry.contents) c entries =
      checked (entries.map TagItem.name) (.ok
        { c with table.httpResponses := c.table.httpResponses ++ entries.map fun entry =>
            { status := statusValue entry.name, contents := renderAll entry.contents } }) := by
  induction entries generalizing c with
  | nil => simp [addEntries]
  | cons entry entries ih =>
      rw [addEntries, addResponse_eq, checked_bind]
      refine (congrArg (checked [entry.name]) (ih _)).trans ?_
      rw [← checked_append]
      simp [Collector.addHttpResponse]

/-- A tag with a keyword adds its contribution, unless one of its status codes is refused. -/
theorem addKnown_eq (c : Collector) (item : Node) (tag : TagItem) (known : KnownTag) :
    addKnown c item tag known =
      checked (known.statusTexts item)
        (.ok { c with table := c.table.add (.ofKnown item tag known) }) := by
  unfold addKnown Contribution.ofKnown KnownTag.statusTexts
  cases known.keyword with
  | returns => simp [TagTable.add, Collector.addReturns]
  | throws => simp [TagTable.add, Collector.addThrows]
  | parameter => simp [TagTable.add, addParameter, Collector.addParameter]
  | parameters => simp [TagTable.add, addEntries_ok, foldl_addParameter]
  | httpBody => simp [TagTable.add, Collector.setHttpBody, Collector.body]
  | httpResponse => simp [TagTable.add, addResponse_eq, Collector.addHttpResponse]
  | httpResponses => simp [TagTable.add, addEntries_addResponse]
  | httpParameter => simp [TagTable.add, Collector.addHttpParameter]
  | httpParameters => simp [TagTable.add, addEntries_ok, foldl_addHttpParameter]
  | httpBodyParameter => simp [TagTable.add, Collector.addHttpBodyParameter, Collector.body]
  | httpBodyParameters =>
      simp [TagTable.add, addEntries_ok, foldl_addHttpBodyParameter, Collector.body]

theorem add_empty (table : TagTable) : table.add {} = table := by
  simp [TagTable.add]

/-- **A step of the run adds the contribution of its node,** unless a status code is refused. -/
theorem record_eq (c : Collector) (node : Node) :
    record c node = checked (statusTexts node)
      (.ok { table := c.table.add (.ofNode node), consumed := c.consumed ++ [node] }) := by
  by_cases param : node.kind = .paramCommand
  · have noItem : TagItem.ofNode? node = none := TagItem.ofNode?_eq_none (by simp [param])
    simp [record, Contribution.ofNode, statusTexts, param, noItem, TagTable.add, addParameter,
      Collector.addParameter, Collector.consume]
  by_cases returns : node.kind = .returnsCommand
  · have noItem : TagItem.ofNode? node = none := TagItem.ofNode?_eq_none (by simp [returns])
    simp [record, Contribution.ofNode, statusTexts, returns, noItem, TagTable.add,
      Collector.addReturns, Collector.consume]
  simp only [record, Contribution.ofNode, statusTexts, takeItem?]
  cases shape : TagItem.ofNode? node with
  | none => simp [add_empty, Collector.consume, Except.map]
  | some tag =>
      cases keyword : tag.known with
      | some known =>
          simp only [keyword, addKnown_eq]
          rw [checked_bind, checked_map]
          rfl
      | none =>
          cases simple : TagName.isSimple tag.name with
          | true =>
              simp [keyword, simple, TagTable.add, Collector.addSimple, Collector.consume,
                Except.map]
          | false => simp [keyword, simple, add_empty, Collector.consume, Except.map]

end Harvest

/-! ## Whole runs -/

/-- What belongs to a body comes from nodes that call for one. -/
theorem Contribution.body_of_not_declared {node : Node}
    (silent : (Contribution.ofNode node).declaresBody = false) :
    (Contribution.ofNode node).bodyContents = none ∧
      (Contribution.ofNode node).bodyParameters = [] := by
  unfold Contribution.ofNode at silent ⊢
  split
  · exact ⟨rfl, rfl⟩
  · exact ⟨rfl, rfl⟩
  · cases shape : TagItem.ofNode? node with
    | none => exact ⟨rfl, rfl⟩
    | some tag =>
        cases keyword : tag.known with
        | none => simp only [keyword]; split <;> exact ⟨rfl, rfl⟩
        | some known =>
            simp only [shape, keyword, Contribution.ofKnown] at silent ⊢
            cases word : known.keyword <;> simp [word] at silent ⊢

/-- One more node: it declares a body if it calls for one, its contents replace earlier ones, and its
parameters come last. -/
theorem bodyOf_snoc (nodes : List Node) (node : Node) :
    bodyOf (nodes ++ [node]) =
      if (Contribution.ofNode node).declaresBody then
        some { (bodyOf nodes).getD {} with
          contents := (Contribution.ofNode node).bodyContents.getD ((bodyOf nodes).getD {}).contents
          parameters := ((bodyOf nodes).getD {}).parameters ++
            (Contribution.ofNode node).bodyParameters }
      else bodyOf nodes := by
  cases declared : (Contribution.ofNode node).declaresBody with
  | false =>
      obtain ⟨noContents, noParameters⟩ := Contribution.body_of_not_declared declared
      simp [bodyOf, declared, noContents, noParameters]
  | true =>
      cases before : nodes.any fun node => (Contribution.ofNode node).declaresBody with
      | true =>
          cases contents : (Contribution.ofNode node).bodyContents <;>
            simp [bodyOf, before, declared, contents]
      | false =>
          -- The first node that calls for a body finds no contents and no parameters before it.
          have quiet : ∀ n ∈ nodes, (Contribution.ofNode n).declaresBody = false := by
            simpa using before
          have noContents : (nodes.filterMap fun n => (Contribution.ofNode n).bodyContents) = [] :=
            List.filterMap_eq_nil_iff.2 fun n member =>
              (Contribution.body_of_not_declared (quiet n member)).1
          have noParameters : (nodes.flatMap fun n => (Contribution.ofNode n).bodyParameters) = [] :=
            List.flatMap_eq_nil_iff.2 fun n member =>
              (Contribution.body_of_not_declared (quiet n member)).2
          cases contents : (Contribution.ofNode node).bodyContents <;>
            simp [bodyOf, before, declared, contents, noContents, noParameters]

theorem tableOf_snoc (nodes : List Node) (node : Node) :
    tableOf (nodes ++ [node]) = (tableOf nodes).add (.ofNode node) := by
  simp [tableOf, TagTable.add, bodyOf_snoc]

/-- **A run adds the contributions of its nodes in order,** unless a status code is refused. -/
theorem run_eq (seen nodes : List Node) :
    nodes.foldlM Harvest.record { table := tableOf seen, consumed := seen } =
      checked (nodes.flatMap statusTexts)
        (.ok { table := tableOf (seen ++ nodes), consumed := seen ++ nodes }) := by
  induction nodes generalizing seen with
  | nil => simp [pure, Except.pure]
  | cons node nodes ih =>
      rw [List.foldlM_cons, Harvest.record_eq, ← tableOf_snoc, checked_bind]
      refine (congrArg (checked (statusTexts node)) (ih (seen ++ [node]))).trans ?_
      rw [← checked_append, List.flatMap_cons, List.append_assoc, List.singleton_append]

/-- **The closed form of the harvest.** Unless a status code is refused, it leaves what is not taken,
and the table is made of what is taken. -/
theorem harvest_closed (blocks : List Node) :
    harvest blocks = checked ((Harvest.taken blocks).flatMap statusTexts) (.ok
      { blocks := Harvest.kept blocks
        table := tableOf (Harvest.taken blocks)
        consumed := Harvest.taken blocks }) := by
  rw [harvest_eq]
  refine (congrArg (Except.map _) (run_eq [] (Harvest.taken blocks))).trans ?_
  rw [checked_map]
  rfl

theorem harvest_of_short (blocks : List Node)
    (short : ∀ code ∈ (Harvest.taken blocks).flatMap statusTexts, isOverlong code = false) :
    harvest blocks = .ok
      { blocks := Harvest.kept blocks
        table := tableOf (Harvest.taken blocks)
        consumed := Harvest.taken blocks } := by
  rw [harvest_closed]
  exact checked_eq_ok_iff.2 ⟨short, rfl⟩

theorem harvest_eq_ok_iff {blocks : List Node} {h : Harvest} :
    harvest blocks = .ok h ↔
      (∀ code ∈ (Harvest.taken blocks).flatMap statusTexts, isOverlong code = false) ∧
        h.blocks = Harvest.kept blocks ∧ h.table = tableOf (Harvest.taken blocks) ∧
          h.consumed = Harvest.taken blocks := by
  rw [harvest_closed, checked_eq_ok_iff, Except.ok.injEq, eq_comm, Harvest.mk.injEq]

/-- The nodes that call for a body are the items of the three body tags. -/
theorem declaresBody_iff (node : Node) :
    (Contribution.ofNode node).declaresBody = true ↔
      ∃ tag known, TagItem.ofNode? node = some tag ∧ tag.known = some known ∧
        (known.keyword = .httpBody ∨ known.keyword = .httpBodyParameter ∨
          known.keyword = .httpBodyParameters) := by
  by_cases item : node.kind = .listItem
  · simp only [Contribution.ofNode, item]
    cases shape : TagItem.ofNode? node with
    | none => simp
    | some tag =>
        cases keyword : tag.known with
        | none => cases simple : TagName.isSimple tag.name <;> simp [keyword, simple]
        | some known =>
            simp only [keyword, Contribution.ofKnown]
            cases word : known.keyword <;> simp [keyword, word]
  · have noItem := TagItem.ofNode?_eq_none item
    unfold Contribution.ofNode
    split <;> simp [noItem]

/-- **The table is a function of the consumed nodes alone,** and it has a body exactly if one of them
belongs to a body. -/
theorem harvest_table {blocks : List Node} {h : Harvest} (harvested : harvest blocks = .ok h) :
    h.table = tableOf h.consumed ∧
      (h.table.httpBody = none ↔ ∀ node ∈ h.consumed, ¬ ∃ tag known,
        TagItem.ofNode? node = some tag ∧ tag.known = some known ∧
          (known.keyword = .httpBody ∨ known.keyword = .httpBodyParameter ∨
            known.keyword = .httpBodyParameters)) := by
  obtain ⟨-, -, table, consumed⟩ := harvest_eq_ok_iff.1 harvested
  rw [← consumed] at table
  refine ⟨table, ?_⟩
  simp only [table, tableOf, bodyOf, ← declaresBody_iff]
  cases declared : h.consumed.any fun node => (Contribution.ofNode node).declaresBody with
  | true => simpa using declared
  | false => simpa using declared

def lineItem (line : String) (blocks : List Node) : Node :=
  { kind := .listItem, children := Node.paragraph [Node.plain line.toList] none :: blocks }

def bullets (items : List Node) : Node := { kind := .bulletList, children := items }

/-- Body tags around and between others: contents, an outline of parameters, other contents, and
another parameter in a list of its own. -/
def bodyBlocks : List Node :=
  [bullets
    [lineItem "HTTPBody: a" [],
     lineItem "HTTPBodyParameters:" [bullets [lineItem "x: b" [], lineItem "y" []]],
     lineItem "Else: z" [], lineItem "HTTPBody: c" []],
   { kind := .quote
     children := [{ kind := .returnsCommand, children := [Node.paragraph [Node.plain ['d']] none] }] },
   bullets [lineItem "HTTPBodyParameter id: e" []]]

theorem harvest_table_bodyBlocks : ∃ h, harvest bodyBlocks = .ok h ∧ h.table = tableOf h.consumed ∧
    h.table =
      { returns := [[['d']]]
        httpBody := some
          { contents := [['c']]
            parameters := [{ name := ['x'], contents := [['b']] },
              { name := ['i', 'd'], contents := [['e']] }] } } := by
  have harvested := harvest_of_short bodyBlocks (by decide +kernel)
  exact ⟨_, harvested, (harvest_table harvested).1, by decide +kernel⟩

end DocComment
