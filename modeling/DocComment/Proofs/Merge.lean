/- Harvesting documents one after the other. What is taken from a sequence of blocks is taken from each of
them, so the harvest of two documents put together is the merge of their harvests: blocks, consumed nodes
and collections follow each other. Only the body is more than that. Its parameters follow each other too,
but contents replace contents, and whether the second document sets them is read off its body: a body tag
always has contents (`bodyContents_ne_nil`), so empty contents mean that no such tag was met. -/
import DocComment.Proofs.Contribution

namespace DocComment

set_option autoImplicit false

/-- A body after another: the parameters of both, and the later contents if there are any. -/
def HttpBody.merge (first second : HttpBody) : HttpBody :=
  { first with
    contents := if second.contents.isEmpty then first.contents else second.contents
    parameters := first.parameters ++ second.parameters }

/-- What is declared of a body by one table after another. -/
def mergeBodies : Option HttpBody → Option HttpBody → Option HttpBody
  | none, second => second
  | first, none => first
  | some first, some second => some (first.merge second)

def TagTable.merge (first second : TagTable) : TagTable where
  parameters := first.parameters ++ second.parameters
  httpResponses := first.httpResponses ++ second.httpResponses
  httpParameters := first.httpParameters ++ second.httpParameters
  httpBody := mergeBodies first.httpBody second.httpBody
  returns := first.returns ++ second.returns
  throws := first.throws ++ second.throws
  others := first.others ++ second.others

theorem TagItem.contents_ne_nil {node : Node} {tag : TagItem} (read : TagItem.ofNode? node = some tag) :
    tag.contents ≠ [] := by
  unfold TagItem.ofNode? at read
  split at read
  · split at read
    · obtain ⟨line, -, rfl⟩ := Option.map_eq_some_iff.1 read
      exact List.cons_ne_nil _ _
    · cases read
  · cases read

/-- **A body tag never sets empty contents.** The first line of a tag is the first of its contents. -/
theorem Contribution.bodyContents_ne_nil {node : Node} {contents : Contents}
    (sets : (Contribution.ofNode node).bodyContents = some contents) : contents ≠ [] := by
  unfold Contribution.ofNode at sets
  split at sets
  · cases sets
  · cases sets
  · cases read : TagItem.ofNode? node with
    | none => simp [read] at sets
    | some tag =>
        cases keyword : tag.known with
        | none =>
            simp only [read, keyword] at sets
            split at sets <;> cases sets
        | some known =>
            simp only [read, keyword, Contribution.ofKnown] at sets
            cases word : known.keyword <;> simp only [word, reduceCtorEq, Option.some.injEq] at sets
            subst sets
            have filled := TagItem.contents_ne_nil read
            cases all : tag.contents with
            | nil => exact absurd all filled
            | cons first rest => exact List.cons_ne_nil _ _

/-- Nodes that call for no body add nothing to one. -/
theorem body_of_quiet {nodes : List Node}
    (quiet : (nodes.any fun node => (Contribution.ofNode node).declaresBody) = false) :
    (nodes.filterMap fun node => (Contribution.ofNode node).bodyContents) = [] ∧
      (nodes.flatMap fun node => (Contribution.ofNode node).bodyParameters) = [] := by
  have silent : ∀ node ∈ nodes, (Contribution.ofNode node).declaresBody = false := by
    simpa using quiet
  constructor
  · exact List.filterMap_eq_nil_iff.2 fun node member =>
      (Contribution.body_of_not_declared (silent node member)).1
  · exact List.flatMap_eq_nil_iff.2 fun node member =>
      (Contribution.body_of_not_declared (silent node member)).2

theorem getLast?_bodyContents_ne_nil {nodes : List Node} {contents : Contents}
    (last : (nodes.filterMap fun node => (Contribution.ofNode node).bodyContents).getLast? =
      some contents) : contents ≠ [] := by
  obtain ⟨node, -, sets⟩ := List.mem_filterMap.1 (List.mem_of_getLast? last)
  exact Contribution.bodyContents_ne_nil sets

/-- Nodes that declare no body add nothing to it; of two parts that do, the later contents win. -/
theorem bodyOf_append (xs ys : List Node) :
    bodyOf (xs ++ ys) = mergeBodies (bodyOf xs) (bodyOf ys) := by
  unfold bodyOf
  rw [List.any_append, List.filterMap_append, List.flatMap_append, List.getLast?_append]
  cases first : xs.any fun node => (Contribution.ofNode node).declaresBody with
  | false =>
      obtain ⟨noContents, noParameters⟩ := body_of_quiet first
      simp [noContents, noParameters, mergeBodies]
  | true =>
      cases second : ys.any fun node => (Contribution.ofNode node).declaresBody with
      | false =>
          obtain ⟨noContents, noParameters⟩ := body_of_quiet second
          simp [noContents, noParameters, mergeBodies]
      | true =>
          cases last : (ys.filterMap fun node => (Contribution.ofNode node).bodyContents).getLast? with
          | none => simp [mergeBodies, HttpBody.merge]
          | some contents =>
              have filled : contents.isEmpty = false := by
                simpa using getLast?_bodyContents_ne_nil last
              simp [mergeBodies, HttpBody.merge, filled]

/-- The table of some nodes and others is the merge of their tables. -/
theorem tableOf_append (xs ys : List Node) : tableOf (xs ++ ys) = (tableOf xs).merge (tableOf ys) := by
  simp [tableOf, TagTable.merge, bodyOf_append]

theorem Harvest.taken_append (xs ys : List Node) :
    Harvest.taken (xs ++ ys) = Harvest.taken xs ++ Harvest.taken ys := List.flatMap_append

theorem Harvest.kept_append (xs ys : List Node) :
    Harvest.kept (xs ++ ys) = Harvest.kept xs ++ Harvest.kept ys := List.filterMap_append

/-- **Harvesting commutes with putting documents together.** -/
theorem harvest_append {xs ys : List Node} {first second : Harvest}
    (harvestedFirst : harvest xs = .ok first) (harvestedSecond : harvest ys = .ok second) :
    harvest (xs ++ ys) = .ok
      { blocks := first.blocks ++ second.blocks
        table := first.table.merge second.table
        consumed := first.consumed ++ second.consumed } := by
  obtain ⟨short, blocks, table, consumed⟩ := harvest_eq_ok_iff.1 harvestedFirst
  obtain ⟨short', blocks', table', consumed'⟩ := harvest_eq_ok_iff.1 harvestedSecond
  refine harvest_eq_ok_iff.2 ⟨?_, ?_, ?_, ?_⟩
  · rw [Harvest.taken_append, List.flatMap_append]
    intro code member
    rcases List.mem_append.1 member with inFirst | inSecond
    · exact short code inFirst
    · exact short' code inSecond
  · rw [Harvest.kept_append, blocks, blocks']
  · rw [Harvest.taken_append, tableOf_append, table, table']
  · rw [Harvest.taken_append, consumed, consumed']

/-- A document that adds a parameter to a body and leaves its contents. -/
def parameterBlocks : List Node :=
  [Node.paragraph [Node.plain ['f']] none, bullets [lineItem "HTTPBodyParameter name: g" []]]

/-- After the contents of a body, a parameter of it; after the parameter, other contents. -/
theorem harvest_append_parameterBlocks :
    (∃ h, harvest (bodyBlocks ++ parameterBlocks) = .ok h ∧
      h.table.httpBody.map HttpBody.contents = some [['c']]) ∧
    ∃ h, harvest (parameterBlocks ++ bodyBlocks) = .ok h ∧
      h.table.httpBody.map (fun body => (body.contents, body.parameters.map HttpParameter.name)) =
        some ([['c']], ["name".toList, ['x'], "id".toList]) := by
  have body := harvest_of_short bodyBlocks (by decide +kernel)
  have parameter := harvest_of_short parameterBlocks (by decide +kernel)
  exact ⟨⟨_, harvest_append body parameter, by decide +kernel⟩,
    _, harvest_append parameter body, by decide +kernel⟩

end DocComment
