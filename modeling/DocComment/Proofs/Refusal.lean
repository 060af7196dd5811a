/- When a harvest fails. The only texts that are read as numbers are those which response tags among the
items of the document's bullet lists give for status codes, and the only ones that are refused are
numerals with too many digits. So the harvest fails exactly if there is such a text, with the first one
as its fault; otherwise it returns, and every text that is no numeral counts as zero
(`harvest_fails_iff`). There are documents of the first sort: a response under any numeral that is too
long makes one (`harvest_responseBlocks_of_long`).

What the harvest renders has a text for every tree; limits of a machine on depth, on the digits of a printed
number and on the length of a text are left out, as they are in rendering. -/
import DocComment.Proofs.Contribution
import DocComment.Proofs.NameLines

namespace DocComment

set_option autoImplicit false

/-- The texts that the items of the bullet lists among some blocks give for status codes. -/
def statusTextsOf (blocks : List Node) : List Text :=
  blocks.flatMap fun block =>
    if block.kind = .bulletList then block.children.flatMap statusTexts else []

namespace Harvest

theorem statusTexts_eq_nil {node : Node} (untagged : isTag node = false) : statusTexts node = [] := by
  unfold isTag at untagged
  unfold statusTexts
  cases shape : TagItem.ofNode? node with
  | none => rfl
  | some tag =>
      have unknown : tag.known = none := by simp_all
      simp [unknown]

/-- Commands give no status codes. -/
theorem statusTexts_takings_inner (node : Node) : (takings .inner node).flatMap statusTexts = [] := by
  induction node using Node.induct with
  | step node ih =>
      rw [takings_eq]
      split
      · rename_i taken
        have command : node.kind.isCommand = true := by simpa [isTaken] using taken
        have other : node.kind ≠ .listItem := fun item => by simp [item, Kind.isCommand] at command
        simp [statusTexts, TagItem.ofNode?_eq_none other]
      · split
        · rfl
        · rw [List.flatMap_assoc]
          exact List.flatMap_eq_nil_iff.2 ih

/-- What is taken from an item gives the status codes of the item. -/
theorem statusTexts_takings_item (item : Node) :
    (takings .item item).flatMap statusTexts = statusTexts item := by
  cases tag : isTag item with
  | true => rw [takings_of_isTag tag, List.flatMap_singleton]
  | false => rw [(walk_untagged tag).2, statusTexts_takings_inner, statusTexts_eq_nil tag]

/-- Only items of bullet lists give codes, and those that are taken are all of them. -/
theorem statusTexts_taken (blocks : List Node) :
    (taken blocks).flatMap statusTexts = statusTextsOf blocks := by
  unfold taken statusTextsOf
  rw [List.flatMap_assoc]
  congr 1
  funext block
  by_cases list : block.kind = .bulletList
  · rw [if_pos list, takings_bulletList list, List.flatMap_assoc]
    congr 1
    funext item
    exact statusTexts_takings_item item
  · rw [if_neg list, (walk_block list).2, statusTexts_takings_inner]

end Harvest

/-! ## Responses -/

/-- Each text that a node gives for a status code makes up one response, with its value. -/
theorem Contribution.statuses_ofNode (node : Node) :
    (Contribution.ofNode node).httpResponses.map HttpResponse.status =
      (statusTexts node).map statusValue := by
  by_cases item : node.kind = .listItem
  · simp only [Contribution.ofNode, statusTexts, item]
    cases TagItem.ofNode? node with
    | none => rfl
    | some tag =>
        dsimp only
        cases tag.known with
        | none => dsimp only; split <;> rfl
        | some known =>
            cases keyword : known.keyword <;>
              simp [Contribution.ofKnown, KnownTag.statusTexts, keyword]
  · simp only [Contribution.ofNode, statusTexts, TagItem.ofNode?_eq_none item]
    split <;> rfl

theorem statuses_tableOf (nodes : List Node) :
    (tableOf nodes).httpResponses.map HttpResponse.status =
      (nodes.flatMap statusTexts).map statusValue := by
  simp only [tableOf, List.map_flatMap, Contribution.statuses_ofNode]

/-! ## Failure and success -/

theorem checked_eq_error_iff {α : Type} {codes : List Text} {result : α} {fault : IntegerFault} :
    checked codes (.ok result) = .error fault ↔
      ∃ code, codes.find? isOverlong = some code ∧ fault = .tooLong (Text.trim code).length := by
  unfold checked
  cases codes.find? isOverlong with
  | none => simp
  | some code => simp [eq_comm]

/-- **A harvest fails exactly at an overlong numeral.** The fault is that of the first text given for a
status code that is one. If there is none the harvest returns, with one response for each text, in order;
what is no numeral has status zero. -/
theorem harvest_fails_iff (blocks : List Node) :
    (∀ fault, harvest blocks = .error fault ↔
      ∃ code, (statusTextsOf blocks).find? isOverlong = some code ∧
        fault = .tooLong (Text.trim code).length) ∧
    ((∀ code ∈ statusTextsOf blocks, isOverlong code = false) ↔
      ∃ h, harvest blocks = .ok h ∧
        h.table.httpResponses.map HttpResponse.status = (statusTextsOf blocks).map statusValue) := by
  rw [← Harvest.statusTexts_taken]
  refine ⟨fun fault => ?_, fun short => ?_, ?_⟩
  · rw [harvest_closed]
    exact checked_eq_error_iff
  · exact ⟨_, harvest_of_short blocks short, statuses_tableOf (Harvest.taken blocks)⟩
  · rintro ⟨h, harvested, -⟩
    exact (harvest_eq_ok_iff.1 harvested).1

/-! ## A response under a numeral -/

/-- A line that begins with a name and a colon makes its item a tag of that name. -/
theorem TagItem.ofNode?_line {name : Text} (free : ':' ∉ name) (trimmed : Text.trim name = name)
    (present : name ≠ []) (after : Text) (blocks : List Node) :
    ∃ tag,
      TagItem.ofNode?
        { kind := .listItem
          children := Node.paragraph [Node.plain (name ++ ':' :: after)] none :: blocks } = some tag ∧
      tag.known = TagName.classify name := by
  have filled : name.isEmpty = false := by simp [present]
  have cut := Text.cutAt?_append free after
  simp [TagItem.ofNode?, Node.paragraph, NameLine.ofParagraph?, NameLine.cut?, Node.plain, cut, trimmed,
    filled]

/-- A list with one response under a given code. -/
def responseBlocks (code : Text) : List Node :=
  [bullets [{
    kind := .listItem
    children := [Node.paragraph [Node.plain
      (("HTTPResponse ".toList ++ code) ++ ':' :: " x".toList)] none] }]]

section Response

variable {code : Text} (digits : code.IsDigits)

include digits

theorem classify_response :
    TagName.classify ("HTTPResponse ".toList ++ code) =
      some { keyword := .httpResponse, argument := some code } := by
  have split : Text.firstWord ("HTTPResponse ".toList ++ code) = ("HTTPResponse".toList, code) :=
    congrArg (Prod.mk _) (Text.ends_of_trim digits.trim).1
  have keyword : Keyword.ofWord? (Text.lower "HTTPResponse".toList) = some .httpResponse := by
    decide +kernel
  have filled : code.isEmpty = false := by simp [digits.1]
  simp only [TagName.classify, split, keyword, Keyword.takesArgument, digits.trim, filled,
    if_true, Bool.false_eq_true, if_false]

theorem trim_response :
    Text.trim ("HTTPResponse ".toList ++ code) = "HTTPResponse ".toList ++ code := by
  have start : Text.trimLeft ("HTTPResponse ".toList ++ code) = "HTTPResponse ".toList ++ code := rfl
  rw [Text.trim, start, Text.trimRight_append digits.filled, (Text.ends_of_trim digits.trim).2]

theorem statusTextsOf_responseBlocks : statusTextsOf (responseBlocks code) = [code] := by
  have free : ':' ∉ "HTTPResponse ".toList ++ code := by
    rw [List.mem_append]
    rintro (inside | inside)
    · exact absurd inside (by decide)
    · exact absurd (digits.digit inside) (by decide)
  obtain ⟨tag, read, known⟩ := TagItem.ofNode?_line free (trim_response digits)
    (List.append_ne_nil_of_right_ne_nil _ digits.1) " x".toList []
  rw [classify_response digits] at known
  simp only [statusTextsOf, responseBlocks, bullets, statusTexts, List.flatMap_cons, List.flatMap_nil,
    if_true, read, known, KnownTag.statusTexts, Option.getD_some, List.append_nil]

theorem harvest_responseBlocks_of_long (long : digitLimit < code.length) :
    harvest (responseBlocks code) = .error (.tooLong code.length) := by
  have overlong : isOverlong code = true := by simp [isOverlong, isNumeral, digits.trim, digits, long]
  rw [harvest_closed, Harvest.statusTexts_taken, statusTextsOf_responseBlocks digits]
  refine checked_eq_error_iff.2 ⟨code, List.find?_cons_of_pos overlong, ?_⟩
  rw [digits.trim]

end Response

/-- Not every document can be harvested: one digit more than the limit is too much. -/
theorem harvest_overlongNumeral :
    harvest (responseBlocks (List.replicate (digitLimit + 1) '1')) = .error (.tooLong 4301) := by
  have digits : Text.IsDigits (List.replicate (digitLimit + 1) '1') :=
    Text.isDigits_replicate (by decide) (by decide)
  have refused := harvest_responseBlocks_of_long digits (by rw [List.length_replicate]; omega)
  rwa [List.length_replicate] at refused

end DocComment
