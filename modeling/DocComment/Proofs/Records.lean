/- What can be relied on in every record of a table. A name that was read from a tag is a label: it is not
empty and no blank stands at its ends. Contents begin with the rest of the tag's first line, so they are
never empty, and a status code is never negative.

Three facts about reading carry all of this: the name of an item is a label (`TagItem.isLabel_name`), so is
the argument of a keyword that takes one (`KnownTag.isLabel_argument`), and an item has contents
(`TagItem.rendered_ne_nil`). From them the table of one node is well formed, one case for each keyword
(`isWellFormed_node`). Tables one after the other stay so (`TagTable.IsWellFormed.merge`), hence the table of
any nodes is well formed, and with it every harvest.

Nothing is said of standalone parameters and of results. Both can come from a command, and a command can
lack its name and its description. -/
import DocComment.Proofs.Merge
import DocComment.Proofs.Outlines

namespace DocComment

set_option autoImplicit false

/-- A text that can be a name: it is not empty and has no blank at either end. -/
structure Text.IsLabel (t : Text) : Prop where
  ne_nil : t ≠ []
  first : t.head?.any isBlank = false
  last : t.getLast?.any isBlank = false

/-- A parameter that is an entry of an outline has a name and contents. -/
structure Parameter.IsWellFormed (p : Parameter) : Prop where
  name : p.standalone = false → p.name.IsLabel
  contents : p.standalone = false → p.contents ≠ []

/-- A response: only its code and its contents come from the comment. -/
structure HttpResponse.IsWellFormed (r : HttpResponse) : Prop where
  status : 0 ≤ r.status
  contents : r.contents ≠ []
  reason : r.reason = none
  mediaType : r.mediaType = none

/-- A parameter of an endpoint or of its body: only its name and its contents come from the comment. -/
structure HttpParameter.IsWellFormed (p : HttpParameter) : Prop where
  name : p.name.IsLabel
  contents : p.contents ≠ []
  required : p.required = true
  source : p.source = none

/-- A tag that passes through has, up to case, one of the names that do. -/
structure SimpleTag.IsWellFormed (t : SimpleTag) : Prop where
  name : t.name.IsLabel
  simple : Text.lower t.name ∈ TagName.simpleNames
  contents : t.contents ≠ []

structure TagTable.IsWellFormed (table : TagTable) : Prop where
  parameters : ∀ p ∈ table.parameters, p.IsWellFormed
  httpResponses : ∀ r ∈ table.httpResponses, r.IsWellFormed
  httpParameters : ∀ p ∈ table.httpParameters, p.IsWellFormed
  bodyParameters : ∀ body ∈ table.httpBody, ∀ p ∈ body.parameters, p.IsWellFormed
  throws : ∀ contents ∈ table.throws, contents ≠ []
  others : ∀ t ∈ table.others, t.IsWellFormed

/-! ## Names and contents -/

theorem Text.isLabel_trim {t : Text} (filled : trim t ≠ []) : (trim t).IsLabel := by
  obtain ⟨first, last⟩ := trim_eq_self_iff.1 (trim_trim t)
  exact ⟨filled, first, last⟩

theorem TagItem.isLabel_name {item : Node} {tag : TagItem} (read : TagItem.ofNode? item = some tag) :
    tag.name.IsLabel := by
  obtain ⟨-, first, rest, -, -, colon, filled, rfl⟩ := TagItem.ofNode?_eq_some_iff.1 read
  apply Text.isLabel_trim
  rw [Ne, Text.trim_eq_nil_iff, filled]
  exact Bool.false_ne_true

theorem TagItem.rendered_ne_nil {item : Node} {tag : TagItem} (read : TagItem.ofNode? item = some tag) :
    renderAll tag.contents ≠ [] := by
  rw [renderAll_eq, Ne, List.map_eq_nil_iff]
  exact TagItem.contents_ne_nil read

/-- The argument of a keyword that takes one. -/
theorem KnownTag.isLabel_argument {name : Text} {known : KnownTag}
    (classified : TagName.classify name = some known) (takes : known.keyword.takesArgument = true) :
    (known.argument.getD []).IsLabel := by
  obtain ⟨lead, word, rest, -, -, ⟨plain, -⟩ | ⟨-, filled, argument⟩⟩ :=
    (TagName.classify_eq_some_iff name known).1 classified
  · rw [takes] at plain
    cases plain
  · rw [argument]
    exact Text.isLabel_trim filled

theorem TagName.mem_simpleNames {name : Text} (label : name.IsLabel) (simple : isSimple name = true) :
    Text.lower name ∈ simpleNames := by
  rw [isSimple, Text.trim_eq_self_iff.2 ⟨label.first, label.last⟩] at simple
  exact List.contains_iff_mem.1 simple

theorem statusValue_nonneg (code : Text) : 0 ≤ statusValue code := by
  unfold statusValue
  split
  · exact Int.natCast_nonneg _
  · exact Int.le_refl 0

/-- An entry of an outline has a name and contents. -/
theorem TagItem.of_mem_outline {item : Node} {entry : TagItem} (listed : entry ∈ TagItem.outline item) :
    entry.name.IsLabel ∧ renderAll entry.contents ≠ [] := by
  obtain ⟨nested, -, read⟩ := List.mem_filterMap.1 listed
  exact ⟨TagItem.isLabel_name read, TagItem.rendered_ne_nil read⟩

/-! ## One node -/

theorem Parameter.isWellFormed_standalone {p : Parameter} (standalone : p.standalone = true) :
    p.IsWellFormed := by
  constructor <;> intro listed <;> rw [standalone] at listed <;> cases listed

theorem isWellFormed_empty : ({} : TagTable).IsWellFormed := by
  constructor <;> intro record member <;> cases member

/-- **What a tag with a keyword adds is well formed.** Each keyword fills one collection and leaves the
others empty. -/
theorem isWellFormed_known {item : Node} {tag : TagItem} {known : KnownTag}
    (read : TagItem.ofNode? item = some tag) (keyword : tag.known = some known) :
    (({} : TagTable).add (.ofKnown item tag known)).IsWellFormed := by
  have filled := TagItem.rendered_ne_nil read
  have argument : known.keyword.takesArgument = true → (known.argument.getD []).IsLabel := by
    apply KnownTag.isLabel_argument
    rw [← keyword, TagItem.known_eq read]
  have outlined : ∀ p ∈ (TagItem.outline item).map fun entry =>
      ({ name := entry.name, contents := renderAll entry.contents } : HttpParameter), p.IsWellFormed := by
    intro p member
    obtain ⟨entry, listed, rfl⟩ := List.mem_map.1 member
    obtain ⟨name, contents⟩ := TagItem.of_mem_outline listed
    exact ⟨name, contents, rfl, rfl⟩
  unfold Contribution.ofKnown
  cases word : known.keyword with
  | returns => exact { isWellFormed_empty with }
  | throws => exact { isWellFormed_empty with throws := List.forall_mem_singleton.2 filled }
  | parameter =>
      refine { isWellFormed_empty with parameters := List.forall_mem_singleton.2 ?_ }
      exact Parameter.isWellFormed_standalone rfl
  | parameters =>
      refine { isWellFormed_empty with parameters := List.forall_mem_map.2 ?_ }
      intro entry listed
      obtain ⟨name, contents⟩ := TagItem.of_mem_outline listed
      exact ⟨fun _ => name, fun _ => contents⟩
  | httpBody =>
      refine { isWellFormed_empty with bodyParameters := ?_ }
      rintro body ⟨⟩ p member
      cases member
  | httpResponse =>
      refine { isWellFormed_empty with httpResponses := List.forall_mem_singleton.2 ?_ }
      exact ⟨statusValue_nonneg _, filled, rfl, rfl⟩
  | httpResponses =>
      refine { isWellFormed_empty with httpResponses := List.forall_mem_map.2 ?_ }
      intro entry listed
      exact ⟨statusValue_nonneg _, (TagItem.of_mem_outline listed).2, rfl, rfl⟩
  | httpParameter =>
      refine { isWellFormed_empty with httpParameters := List.forall_mem_singleton.2 ?_ }
      exact ⟨argument (by rw [word]; rfl), filled, rfl, rfl⟩
  | httpParameters => exact { isWellFormed_empty with httpParameters := outlined }
  | httpBodyParameter =>
      refine { isWellFormed_empty with bodyParameters := ?_ }
      rintro body ⟨⟩ p member
      obtain rfl := List.mem_singleton.1 member
      exact ⟨argument (by rw [word]; rfl), filled, rfl, rfl⟩
  | httpBodyParameters =>
      refine { isWellFormed_empty with bodyParameters := ?_ }
      rintro body ⟨⟩
      exact outlined

/-- **What one node adds is well formed.** -/
theorem isWellFormed_node (node : Node) : (tableOf [node]).IsWellFormed := by
  rw [tableOf_singleton]
  unfold Contribution.ofNode
  split
  · refine { isWellFormed_empty with parameters := List.forall_mem_singleton.2 ?_ }
    exact Parameter.isWellFormed_standalone rfl
  · exact { isWellFormed_empty with }
  · cases read : TagItem.ofNode? node with
    | none => exact { isWellFormed_empty with }
    | some tag =>
        cases keyword : tag.known with
        | some known =>
            simp only [keyword]
            exact isWellFormed_known read keyword
        | none =>
            by_cases simple : TagName.isSimple tag.name = true
            · have label := TagItem.isLabel_name read
              simp only [keyword, simple, if_true]
              refine { isWellFormed_empty with others := List.forall_mem_singleton.2 ?_ }
              exact ⟨label, TagName.mem_simpleNames label simple, TagItem.rendered_ne_nil read⟩
            · simp only [keyword, simple]
              exact { isWellFormed_empty with }

/-! ## Whole tables -/

/-- Every record of the merged table is a record of one of the two. -/
theorem TagTable.IsWellFormed.merge {first second : TagTable} (left : first.IsWellFormed)
    (right : second.IsWellFormed) : (first.merge second).IsWellFormed where
  parameters := List.forall_mem_append.2 ⟨left.parameters, right.parameters⟩
  httpResponses := List.forall_mem_append.2 ⟨left.httpResponses, right.httpResponses⟩
  httpParameters := List.forall_mem_append.2 ⟨left.httpParameters, right.httpParameters⟩
  throws := List.forall_mem_append.2 ⟨left.throws, right.throws⟩
  others := List.forall_mem_append.2 ⟨left.others, right.others⟩
  bodyParameters := by
    have before := left.bodyParameters
    have after := right.bodyParameters
    unfold TagTable.merge
    cases declared : first.httpBody with
    | none => exact after
    | some body =>
        cases again : second.httpBody with
        | none =>
            rw [declared] at before
            exact before
        | some more =>
            rintro both ⟨⟩
            exact List.forall_mem_append.2 ⟨before body declared, after more again⟩

theorem isWellFormed_tableOf (nodes : List Node) : (tableOf nodes).IsWellFormed := by
  induction nodes with
  | nil => exact isWellFormed_empty
  | cons node nodes ih =>
      rw [← List.singleton_append, tableOf_append]
      exact (isWellFormed_node node).merge ih

/-- **Every record of a harvest is well formed.** -/
theorem harvest_wellFormed {blocks : List Node} {h : Harvest} (harvested : harvest blocks = .ok h) :
    h.table.IsWellFormed := by
  obtain ⟨-, -, table, -⟩ := harvest_eq_ok_iff.1 harvested
  rw [table]
  exact isWellFormed_tableOf _

/-- Records of every collection: names and codes between blanks, a code that is no number, an outline with
an item that is no entry, a tag without text, and two commands without name and description. -/
def recordBlocks : List Node :=
  [bullets
    [lineItem "Parameters:" [bullets [lineItem " x : a" [], lineItem "y" []]],
     lineItem "HTTPResponse  0404 : b" [], lineItem "HTTPResponses:" [bullets [lineItem "teapot: c" []]],
     lineItem "HTTPParameter\tid: d" [], lineItem "HTTPBodyParameters:" [bullets [lineItem "part: e" []]],
     lineItem "Throws:" [], lineItem "AUTHOR: f" []],
   { kind := .paramCommand }, { kind := .returnsCommand }]

/-- Blanks around names and codes are gone, and what is no entry has left no record. -/
theorem harvest_wellFormed_recordBlocks : ∃ h, harvest recordBlocks = .ok h ∧ h.table.IsWellFormed ∧
    h.table =
      { parameters := [{ name := ['x'], contents := [['a']] }, { name := [], standalone := true }]
        httpResponses := [{ status := 404, contents := [['b']] }, { status := 0, contents := [['c']] }]
        httpParameters := [{ name := ['i', 'd'], contents := [['d']] }]
        httpBody := some { parameters := [{ name := "part".toList, contents := [['e']] }] }
        returns := [[]]
        throws := [[[]]]
        others := [{ name := "AUTHOR".toList, contents := [['f']] }] } := by
  have harvested := harvest_of_short recordBlocks (by decide +kernel)
  exact ⟨_, harvested, harvest_wellFormed harvested, by decide +kernel⟩

end DocComment
