/- Outlines and single tags. An outline tag lists its entries under one item; each entry could as well be a
tag of its own, with the keyword before its name. The two are read in different ways: the name of an entry
is all that stands before its colon, the name of a tag is what follows the keyword there. They agree
nonetheless (`TagItem.ofNode?_leadItem`), so a list of tags makes the same records as the outline of the
same entries, or is refused for the same number (`harvest_outline_agrees`). The records of parameters
differ only in that they say which of the two they come from. -/
import DocComment.Proofs.NameLines
import DocComment.Proofs.Refusal
import DocComment.Proofs.TagNames

namespace DocComment

set_option autoImplicit false

/-- The tag that stands for one entry of an outline. -/
def Keyword.singular? : Keyword → Option Keyword
  | .parameters => some .parameter
  | .httpResponses => some .httpResponse
  | .httpParameters => some .httpParameter
  | .httpBodyParameters => some .httpBodyParameter
  | _ => none

/-- Inlines with a text put before the plain text that leads them. -/
def leadInlines (lead : Text) : List Node → List Node
  | [] => [Node.plain lead]
  | node :: rest =>
    if node.kind = .text then { node with content := lead ++ node.content } :: rest
    else Node.plain lead :: node :: rest

/-- An item with a text put before its first line. -/
def leadItem (lead : Text) (item : Node) : Node :=
  match item.children with
  | [] => item
  | first :: blocks =>
    item.withChildren (first.withChildren (leadInlines lead first.children) :: blocks)

/-! ## An entry as a tag -/

/-- A text without a colon before a line goes before the name; what follows the colon stays. -/
theorem NameLine.Colon.exists_lead {inlines : List Node} (colon : NameLine.Colon inlines) {lead : Text}
    (free : ':' ∉ lead) :
    ∃ led : NameLine.Colon (leadInlines lead inlines), led.decoded = lead ++ colon.decoded ∧
      led.after = colon.after ∧ led.rest = colon.rest := by
  obtain ⟨before, holder, rest, head, after, rfl, leads, isText, content, colonless⟩ := colon
  cases before with
  | nil =>
      have shape : leadInlines lead ([] ++ holder :: rest) =
          [] ++ { holder with content := lead ++ holder.content } :: rest := by
        simp [leadInlines, isText]
      refine ⟨⟨[], _, rest, lead ++ head, after, shape, by simp, isText, ?_, ?_⟩, rfl, rfl, rfl⟩
      · simp [content]
      · simp [free, colonless]
  | cons node more =>
      obtain ⟨first, others⟩ := List.forall_mem_cons.1 leads
      rcases first with special | ⟨text, without⟩
      · have shape : leadInlines lead (node :: more ++ holder :: rest) =
            (Node.plain lead :: node :: more) ++ holder :: rest := by
          simp [leadInlines, special]
        refine ⟨⟨_, holder, rest, head, after, shape, ?_, isText, content, colonless⟩, ?_, rfl, rfl⟩
        · exact List.forall_mem_cons.2 ⟨.inr ⟨rfl, free⟩, leads⟩
        · simp [NameLine.Colon.decoded, Node.plain]
      · have shape : leadInlines lead (node :: more ++ holder :: rest) =
            ({ node with content := lead ++ node.content } :: more) ++ holder :: rest := by
          simp [leadInlines, text]
        refine ⟨⟨_, holder, rest, head, after, shape, ?_, isText, content, colonless⟩, ?_, rfl, rfl⟩
        · exact List.forall_mem_cons.2 ⟨.inr ⟨text, by simp [free, without]⟩, others⟩
        · simp [NameLine.Colon.decoded]

/-- An item is a tag exactly if it begins with a paragraph that has a colon and a name before it. -/
theorem TagItem.ofNode?_eq_some_iff {item : Node} {tag : TagItem} :
    TagItem.ofNode? item = some tag ↔
      item.kind = .listItem ∧ ∃ first rest, item.children = first :: rest ∧ first.kind = .paragraph ∧
        ∃ colon : NameLine.Colon first.children, colon.decoded.all isBlank = false ∧
          tag = { name := Text.trim colon.decoded
                  known := TagName.classify (Text.trim colon.decoded)
                  contents := (colon.line first.range).content :: rest
                  nameRange := (colon.line first.range).nameRange
                  range := item.range } := by
  constructor
  · intro read
    unfold TagItem.ofNode? at read
    split at read
    · rename_i first rest kind children
      split at read
      · rename_i paragraph
        obtain ⟨line, split, rfl⟩ := Option.map_eq_some_iff.1 read
        obtain ⟨colon, filled, rfl⟩ := NameLine.ofParagraph?_eq_some_iff.1 split
        exact ⟨kind, first, rest, children, paragraph, colon, filled, rfl⟩
      · cases read
    · cases read
  · rintro ⟨kind, first, rest, children, paragraph, colon, filled, rfl⟩
    have line := NameLine.ofParagraph?_eq_some_iff.2 ⟨colon, filled, rfl⟩
    simp only [TagItem.ofNode?, kind, children, paragraph, line, if_true, Option.map_some]
    rfl

section Entry

variable {single : Keyword} {word : Text} (takes : single.takesArgument = true)
  (spelled : Text.lower word = single.word)

include spelled

theorem Keyword.colonless : ':' ∉ word ++ [' '] := by
  rw [List.mem_append]
  rintro (inside | inside)
  · have member := Text.mem_lowerAfter (c := ':') ⟨by decide, by decide +kernel⟩ [] inside
    rw [← Text.lower, spelled] at member
    revert member
    cases single <;> decide +kernel
  · exact absurd inside (by decide)

include takes

/-- With the word before it, a name is the argument of that word, trimmed. -/
theorem TagName.classify_led {name : Text} (filled : name.all isBlank = false) :
    classify (word ++ [' '] ++ name) =
      some { keyword := single, argument := some (Text.trim name) } := by
  obtain ⟨solid, present⟩ := Keyword.solid_of_spelled spelled
  have begins : Text.Begins (word ++ [' '] ++ name) [] word (' ' :: name) :=
    ⟨by simp, rfl, present, solid, by rw [List.head?_cons, Option.all_some]; decide⟩
  have trimmed : Text.trim (' ' :: name) = Text.trim name :=
    Text.trim_append_left (show [' '].all isBlank = true by decide) name
  rw [classify_begins begins, Takes, trimmed]
  refine ⟨spelled, .inr ⟨takes, ?_, rfl⟩⟩
  rw [Ne, Text.trim_eq_nil_iff, filled]
  exact Bool.false_ne_true

/-- **An entry with a keyword before it is a tag for the name of the entry,** with the same contents. -/
theorem TagItem.ofNode?_leadItem {item : Node} {tag : TagItem}
    (read : TagItem.ofNode? item = some tag) :
    ∃ led, TagItem.ofNode? (leadItem (word ++ [' ']) item) = some led ∧
      led.known = some { keyword := single, argument := some tag.name } ∧
      renderAll led.contents = renderAll tag.contents := by
  obtain ⟨kind, first, rest, children, paragraph, colon, filled, rfl⟩ :=
    TagItem.ofNode?_eq_some_iff.1 read
  obtain ⟨led, decoded, after, following⟩ := colon.exists_lead (Keyword.colonless spelled)
  have shape : leadItem (word ++ [' ']) item =
      item.withChildren (first.withChildren (leadInlines (word ++ [' ']) first.children) :: rest) := by
    simp [leadItem, children]
  have ledFilled : led.decoded.all isBlank = false := by
    rw [decoded, List.all_append, filled, Bool.and_false]
  have known : TagName.classify (Text.trim led.decoded) =
      some { keyword := single, argument := some (Text.trim colon.decoded) } := by
    rw [TagName.classify_trim, decoded]
    exact TagName.classify_led takes spelled filled
  have content : (led.line first.range).content.render = (colon.line first.range).content.render := by
    simp only [NameLine.Colon.line, Node.render_paragraph, after, following]
  refine ⟨_, TagItem.ofNode?_eq_some_iff.2
    ⟨by rw [shape]; exact kind, first.withChildren (leadInlines (word ++ [' ']) first.children), rest,
      by rw [shape]; rfl, paragraph, led, ledFilled, rfl⟩, known, ?_⟩
  exact congrArg (· :: renderAll rest) content

end Entry

/-! ## The records of the entries -/

def outlineTable (outline : Keyword) (entries : List TagItem) : TagTable :=
  let named := fun entry : TagItem =>
    ({ name := entry.name, contents := renderAll entry.contents } : HttpParameter)
  match outline with
  | .parameters =>
    { parameters := entries.map fun entry =>
        { name := entry.name, contents := renderAll entry.contents, standalone := false } }
  | .httpResponses =>
    { httpResponses := entries.map fun entry =>
        { status := statusValue entry.name, contents := renderAll entry.contents } }
  | .httpParameters => { httpParameters := entries.map named }
  | .httpBodyParameters => { httpBody := some { parameters := entries.map named } }
  | _ => {}

/-- What one entry adds as a tag of its own. -/
def singleContribution (single : Keyword) (entry : TagItem) : Contribution :=
  let contents := renderAll entry.contents
  match single with
  | .parameter => { parameters := [{ name := entry.name, contents, standalone := true }] }
  | .httpResponse => { httpResponses := [{ status := statusValue entry.name, contents }] }
  | .httpParameter => { httpParameters := [{ name := entry.name, contents }] }
  | .httpBodyParameter =>
    { declaresBody := true, bodyParameters := [{ name := entry.name, contents }] }
  | _ => {}

/-- The text that one entry gives for a status code as a tag of its own. -/
def singleCodes (single : Keyword) (entry : TagItem) : List Text :=
  if single = .httpResponse then [entry.name] else []

theorem singleContribution_bodyContents (single : Keyword) (entry : TagItem) :
    (singleContribution single entry).bodyContents = none := by
  cases single <;> rfl

theorem flatMap_singleCodes (single : Keyword) (entries : List TagItem) :
    entries.flatMap (singleCodes single) =
      if single = .httpResponse then entries.map TagItem.name else [] := by
  unfold singleCodes
  split
  · exact List.map_eq_flatMap.symm
  · exact List.flatMap_eq_nil_iff.2 fun _ _ => rfl

/-- Two tables with the same records, where the parameters of the first are entries of outlines and those
of the second have tags of their own. A body without parameters may be missing in the second. -/
structure SameRecords (outlined single : TagTable) : Prop where
  parameters : outlined.parameters.map (fun p => { p with standalone := true }) = single.parameters
  grouped : ∀ p ∈ outlined.parameters, p.standalone = false
  httpResponses : outlined.httpResponses = single.httpResponses
  httpParameters : outlined.httpParameters = single.httpParameters
  httpBody : outlined.httpBody = single.httpBody ∨
    outlined.httpBody = some {} ∧ single.httpBody = none
  returns : outlined.returns = single.returns
  throws : outlined.throws = single.throws
  others : outlined.others = single.others

theorem outlineTable_grouped (outline : Keyword) (entries : List TagItem) :
    ∀ p ∈ (outlineTable outline entries).parameters, p.standalone = false := by
  intro p member
  cases outline with
  | parameters =>
      obtain ⟨entry, -, rfl⟩ := List.mem_map.1 member
      rfl
  | _ => cases member

/-- A table with what each entry adds as a tag of its own, in order. -/
structure HoldsSingles (single : Keyword) (entries : List TagItem) (table : TagTable) : Prop where
  parameters : table.parameters = entries.flatMap fun e => (singleContribution single e).parameters
  httpResponses :
    table.httpResponses = entries.flatMap fun e => (singleContribution single e).httpResponses
  httpParameters :
    table.httpParameters = entries.flatMap fun e => (singleContribution single e).httpParameters
  httpBody : table.httpBody =
    if entries.any fun e => (singleContribution single e).declaresBody then
      some { parameters := entries.flatMap fun e => (singleContribution single e).bodyParameters }
    else none
  returns : table.returns = entries.flatMap fun e => (singleContribution single e).returns
  throws : table.throws = entries.flatMap fun e => (singleContribution single e).throws
  others : table.others = entries.flatMap fun e => (singleContribution single e).others

/-! ## Lists of tags -/

theorem Contribution.ofNode_known {node : Node} {tag : TagItem} {known : KnownTag}
    (read : TagItem.ofNode? node = some tag) (keyword : tag.known = some known) :
    Contribution.ofNode node = Contribution.ofKnown node tag known ∧
      statusTexts node = known.statusTexts node := by
  have kind := (TagItem.ofNode?_eq_some_iff.1 read).1
  constructor
  · simp [Contribution.ofNode, kind, read, keyword]
  · simp [DocComment.statusTexts, read, keyword]

theorem tableOf_singleton (node : Node) :
    tableOf [node] = ({} : TagTable).add (Contribution.ofNode node) :=
  tableOf_snoc [] node

theorem Harvest.isTag_of_known {item : Node} {tag : TagItem} {known : KnownTag}
    (read : TagItem.ofNode? item = some tag) (keyword : tag.known = some known) : isTag item = true := by
  simp [isTag, read, keyword]

/-- From a list of tags all items are taken. -/
theorem Harvest.taken_tags {list : Node} (isList : list.kind = .bulletList)
    (tags : ∀ item ∈ list.children, isTag item = true) : taken [list] = list.children := by
  rw [taken, List.flatMap_singleton, takings_bulletList isList]
  have each : ∀ item ∈ list.children, takings .item item = [item] :=
    fun item member => takings_of_isTag (tags item member)
  rw [List.flatMap_congr each, List.flatMap_singleton']

theorem TagItem.nestedItems_eq (item : Node) :
    TagItem.nestedItems item =
      (item.children.filter fun block => block.kind = .bulletList).flatMap Node.children := by
  unfold TagItem.nestedItems
  induction item.children with
  | nil => rfl
  | cons block blocks ih =>
      by_cases isList : block.kind = .bulletList
      · simp [isList, ih]
      · simp [isList, ih]

/-- A bullet list with a single item, an outline tag; its entries are the items of the only bullet list
inside it. -/
structure OutlineList (outline : Keyword) where
  list : Node
  item : Node
  tag : TagItem
  inner : Node
  isList : list.kind = .bulletList
  only : list.children = [item]
  read : TagItem.ofNode? item = some tag
  spelled : TagName.Spells tag.name { keyword := outline }
  nested : item.children.filter (fun block => block.kind = .bulletList) = [inner]

namespace OutlineList

variable {outline : Keyword} (outlined : OutlineList outline)

/-- The entries; some of them may be no tags. -/
def entries : List Node := outlined.inner.children

/-- The entries that have a name. -/
def tags : List TagItem := outlined.entries.filterMap TagItem.ofNode?

theorem known : outlined.tag.known = some { keyword := outline } := by
  rw [TagItem.known_eq outlined.read]
  exact (TagName.classify_eq_some_iff _ _).2 outlined.spelled

theorem outline_eq : TagItem.outline outlined.item = outlined.tags := by
  rw [TagItem.outline, TagItem.nestedItems_eq, outlined.nested, List.flatMap_singleton]
  rfl

theorem taken_eq : Harvest.taken [outlined.list] = [outlined.item] := by
  rw [← outlined.only]
  apply Harvest.taken_tags outlined.isList
  rw [outlined.only]
  intro item member
  rw [List.mem_singleton.1 member]
  exact Harvest.isTag_of_known outlined.read outlined.known

end OutlineList

/-- A bullet list of the entries that have a name, each with a word before it. -/
structure SingleList (word : Text) (entries : List Node) where
  list : Node
  isList : list.kind = .bulletList
  items : list.children =
    (entries.filter fun entry => (TagItem.ofNode? entry).isSome).map (leadItem (word ++ [' ']))

/-- What the named entries are with a text before them, given what each of them is. -/
theorem map_leadItem {α : Type} {lead : Text} {ofItem : Node → α} {ofTag : TagItem → α}
    (each : ∀ entry tag, TagItem.ofNode? entry = some tag → ofItem (leadItem lead entry) = ofTag tag)
    (entries : List Node) :
    ((entries.filter fun entry => (TagItem.ofNode? entry).isSome).map (leadItem lead)).map ofItem =
      (entries.filterMap TagItem.ofNode?).map ofTag := by
  induction entries with
  | nil => rfl
  | cons entry entries ih =>
      cases read : TagItem.ofNode? entry with
      | none => simpa [read] using ih
      | some tag => simpa [read, each entry tag read] using ih

section Agreement

variable {single : Keyword} {word : Text} (takes : single.takesArgument = true)
  (spelled : Text.lower word = single.word)

include takes spelled

/-- What an entry with a keyword before it adds. -/
theorem Contribution.ofNode_leadItem {item : Node} {tag : TagItem}
    (read : TagItem.ofNode? item = some tag) :
    Contribution.ofNode (leadItem (word ++ [' ']) item) = singleContribution single tag ∧
      statusTexts (leadItem (word ++ [' ']) item) = singleCodes single tag := by
  obtain ⟨led, readLed, known, contents⟩ := TagItem.ofNode?_leadItem takes spelled read
  obtain ⟨contribution, codes⟩ := Contribution.ofNode_known readLed known
  rw [contribution, codes]
  simp only [Contribution.ofKnown, KnownTag.statusTexts, Option.getD_some, contents]
  cases single with
  | parameter => exact ⟨rfl, rfl⟩
  | httpResponse => exact ⟨rfl, rfl⟩
  | httpParameter => exact ⟨rfl, rfl⟩
  | httpBodyParameter => exact ⟨rfl, rfl⟩
  | _ => cases takes

variable {entries : List Node} (singles : SingleList word entries)

theorem SingleList.taken_eq : Harvest.taken [singles.list] = singles.list.children := by
  apply Harvest.taken_tags singles.isList
  intro item member
  rw [singles.items] at member
  obtain ⟨entry, named, rfl⟩ := List.mem_map.1 member
  obtain ⟨tag, read⟩ := Option.isSome_iff_exists.1 (List.mem_filter.1 named).2
  obtain ⟨led, readLed, known, -⟩ := TagItem.ofNode?_leadItem takes spelled read
  exact Harvest.isTag_of_known readLed known

/-- The items add what the entries add as tags, in the same order. -/
theorem SingleList.contributions :
    singles.list.children.map Contribution.ofNode =
      (entries.filterMap TagItem.ofNode?).map (singleContribution single) := by
  rw [singles.items]
  exact map_leadItem
    (fun entry tag read => (Contribution.ofNode_leadItem takes spelled read).1) entries

theorem SingleList.codes :
    singles.list.children.map statusTexts =
      (entries.filterMap TagItem.ofNode?).map (singleCodes single) := by
  rw [singles.items]
  exact map_leadItem
    (fun entry tag read => (Contribution.ofNode_leadItem takes spelled read).2) entries

theorem SingleList.flatMap_contribution {α : Type} (field : Contribution → List α) :
    (singles.list.children.flatMap fun item => field (Contribution.ofNode item)) =
      (entries.filterMap TagItem.ofNode?).flatMap fun tag => field (singleContribution single tag) := by
  rw [← List.flatMap_map, singles.contributions takes spelled, List.flatMap_map]

/-- The tags of the list make up the body together, in their order. -/
theorem SingleList.bodyOf_eq :
    bodyOf singles.list.children =
      if (entries.filterMap TagItem.ofNode?).any fun tag => (singleContribution single tag).declaresBody then
        some { parameters := (entries.filterMap TagItem.ofNode?).flatMap fun tag =>
          (singleContribution single tag).bodyParameters }
      else none := by
  have same := singles.contributions takes spelled
  have declares := congrArg (List.any · Contribution.declaresBody) same
  simp only [List.any_map, Function.comp_def] at declares
  have contents := congrArg (List.filterMap Contribution.bodyContents) same
  simp only [List.filterMap_map, Function.comp_def, singleContribution_bodyContents,
    List.filterMap_none] at contents
  unfold bodyOf
  rw [declares, contents, singles.flatMap_contribution takes spelled Contribution.bodyParameters]
  rfl

theorem SingleList.holds :
    HoldsSingles single (entries.filterMap TagItem.ofNode?) (tableOf singles.list.children) where
  parameters := singles.flatMap_contribution takes spelled Contribution.parameters
  httpResponses := singles.flatMap_contribution takes spelled Contribution.httpResponses
  httpParameters := singles.flatMap_contribution takes spelled Contribution.httpParameters
  httpBody := singles.bodyOf_eq takes spelled
  returns := singles.flatMap_contribution takes spelled Contribution.returns
  throws := singles.flatMap_contribution takes spelled Contribution.throws
  others := singles.flatMap_contribution takes spelled Contribution.others

end Agreement

theorem Keyword.takesArgument_of_singular {outline single : Keyword} (pair : outline.singular? = some single) :
    single.takesArgument = true := by
  cases outline <;> cases pair <;> rfl

section Pair

variable {outline single : Keyword} (pair : outline.singular? = some single)

include pair

theorem OutlineList.table_eq (outlined : OutlineList outline) :
    tableOf [outlined.item] = outlineTable outline outlined.tags ∧
      statusTexts outlined.item = outlined.tags.flatMap (singleCodes single) := by
  obtain ⟨contribution, codes⟩ := Contribution.ofNode_known outlined.read outlined.known
  rw [tableOf_singleton, contribution, codes]
  cases outline <;> cases pair <;>
    simp [TagTable.add, Contribution.ofKnown, KnownTag.statusTexts, outlineTable, flatMap_singleCodes,
      outlined.outline_eq]

/-- A table of what the entries of an outline add as tags has the records of the outline. -/
theorem HoldsSingles.sameRecords {entries : List TagItem} {table : TagTable}
    (holds : HoldsSingles single entries table) : SameRecords (outlineTable outline entries) table where
  grouped := outlineTable_grouped outline entries
  parameters := by
    rw [holds.parameters]
    cases outline <;> cases pair <;> simp [outlineTable, singleContribution, ← List.map_eq_flatMap]
  httpResponses := by
    rw [holds.httpResponses]
    cases outline <;> cases pair <;> simp [outlineTable, singleContribution, ← List.map_eq_flatMap]
  httpParameters := by
    rw [holds.httpParameters]
    cases outline <;> cases pair <;> simp [outlineTable, singleContribution, ← List.map_eq_flatMap]
  httpBody := by
    rw [holds.httpBody]
    cases outline <;> cases pair
    case httpBodyParameters =>
      cases entries with
      | nil => exact .inr ⟨rfl, rfl⟩
      | cons entry entries =>
          left
          simp [outlineTable, singleContribution, ← List.map_eq_flatMap]
    all_goals
      left
      simp [outlineTable, singleContribution]
  returns := by
    rw [holds.returns]
    cases outline <;> cases pair <;> simp [outlineTable, singleContribution]
  throws := by
    rw [holds.throws]
    cases outline <;> cases pair <;> simp [outlineTable, singleContribution]
  others := by
    rw [holds.others]
    cases outline <;> cases pair <;> simp [outlineTable, singleContribution]

end Pair

/-! ## The two ways to write entries -/

/-- **An outline and tags of their own say the same.** Let the entries of an outline, those with a name, be
items of a list themselves, each with the word for a single tag before it. That list is refused exactly if
the outline is, for the same fault. Otherwise both have one record for each entry that has a name, in
order, and of its name and its contents; parameters differ in that they are grouped or have a tag of their
own. -/
theorem harvest_outline_agrees {outline single : Keyword} (pair : outline.singular? = some single)
    {word : Text} (spelled : Text.lower word = single.word)
    (outlined : OutlineList outline) (singles : SingleList word outlined.entries) :
    (∀ fault, harvest [outlined.list] = .error fault ↔ harvest [singles.list] = .error fault) ∧
      ∀ h h', harvest [outlined.list] = .ok h → harvest [singles.list] = .ok h' →
        h.table = outlineTable outline outlined.tags ∧ SameRecords h.table h'.table := by
  have takes := Keyword.takesArgument_of_singular pair
  obtain ⟨table, codes⟩ := outlined.table_eq pair
  constructor
  · intro fault
    rw [harvest_closed, harvest_closed, checked_eq_error_iff, checked_eq_error_iff, outlined.taken_eq,
      singles.taken_eq takes spelled, List.flatMap_singleton, codes, List.flatMap_def,
      List.flatMap_def, singles.codes takes spelled]
    rfl
  · intro h h' harvested harvested'
    obtain ⟨-, -, eq, -⟩ := harvest_eq_ok_iff.1 harvested
    obtain ⟨-, -, eq', -⟩ := harvest_eq_ok_iff.1 harvested'
    rw [outlined.taken_eq, table] at eq
    rw [singles.taken_eq takes spelled] at eq'
    refine ⟨eq, ?_⟩
    rw [eq, eq']
    exact (singles.holds takes spelled).sameRecords pair

/-- An item that begins with an escape, an item without a name, and one that begins like another tag. -/
def mixedEntries : List Node :=
  [{ kind := .listItem
     children := [Node.paragraph
       [{ kind := .special, content := ['*'], markup := ['\\', '*'] }, Node.plain "x: a".toList] none] },
   lineItem "y" [],
   lineItem "Returns  z : b" [Node.paragraph [Node.plain ['c']] none]]

def mixedOutline : OutlineList .parameters where
  list := bullets [lineItem "pArameterS:" [bullets mixedEntries]]
  item := lineItem "pArameterS:" [bullets mixedEntries]
  tag :=
    { name := "pArameterS".toList
      known := TagName.classify "pArameterS".toList
      contents := [Node.paragraph [] none, bullets mixedEntries] }
  inner := bullets mixedEntries
  isList := rfl
  only := rfl
  read := rfl
  spelled := (TagName.classify_eq_some_iff _ _).1 (by decide +kernel)
  nested := rfl

def mixedSingles : SingleList "PARAMETER".toList mixedOutline.entries where
  list := bullets
    [{ kind := .listItem
       children := [Node.paragraph
         [Node.plain "PARAMETER ".toList, { kind := .special, content := ['*'], markup := ['\\', '*'] },
          Node.plain "x: a".toList] none] },
     lineItem "PARAMETER Returns  z : b" [Node.paragraph [Node.plain ['c']] none]]
  isList := rfl
  items := rfl

/-- An item without a name is no entry, and one that begins like another tag is an entry all the same. -/
theorem harvest_outline_agrees_mixedOutline :
    ∃ h h', harvest [mixedOutline.list] = .ok h ∧ harvest [mixedSingles.list] = .ok h' ∧
      h.table =
        { parameters :=
            [{ name := "*x".toList, contents := [['a']] },
             { name := "Returns  z".toList, contents := [['b'], ['c']] }] } ∧
      SameRecords h.table h'.table := by
  have harvested := harvest_of_short [mixedOutline.list] (by decide +kernel)
  have harvested' := harvest_of_short [mixedSingles.list] (by decide +kernel)
  have agrees := harvest_outline_agrees rfl (by decide +kernel) mixedOutline mixedSingles
  exact ⟨_, _, harvested, harvested', by decide +kernel, (agrees.2 _ _ harvested harvested').2⟩

end DocComment
