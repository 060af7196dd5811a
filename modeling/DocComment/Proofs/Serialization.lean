/- What the JSON form of a model keeps. A decoder reads back every table of tags, except for the two
fields that are not written, and every model up to sections and tables that are empty. The decoder
looks members up by their names, so that it cannot tell apart objects that are equal as dictionaries. -/
import DocComment.Documentation

namespace DocComment

set_option autoImplicit false

/-! ## Equality of dictionaries -/

namespace Json

def get? (key : Text) : Json → Option Json
  | .obj members => members.lookup key
  | _ => none

/-- Equality that does not see the order of members: two objects are equal if they have the same
names and equal values under each of them. -/
inductive Same : Json → Json → Prop
  | null : Same .null .null
  | bool (value : Bool) : Same (.bool value) (.bool value)
  | int (value : Int) : Same (.int value) (.int value)
  | str (value : Text) : Same (.str value) (.str value)
  | arr {items others : List Json} (length : items.length = others.length)
      (each : ∀ (i : Nat) (a b : Json), items[i]? = some a → others[i]? = some b → Same a b) :
      Same (.arr items) (.arr others)
  | obj {members others : Fields}
      (names : ∀ key : Text, (members.lookup key).isSome = (others.lookup key).isSome)
      (values : ∀ (key : Text) (a b : Json),
        members.lookup key = some a → others.lookup key = some b → Same a b) :
      Same (.obj members) (.obj others)

theorem mem_of_lookup {key : Text} {value : Json} {members : Fields}
    (found : members.lookup key = some value) : (key, value) ∈ members := by
  obtain ⟨before, after, rfl, -⟩ := List.lookup_eq_some_iff.mp found
  simp

/-- A value is the same as itself. -/
theorem Same.refl : ∀ value : Json, value.Same value
  | .null => .null
  | .bool value => .bool value
  | .int value => .int value
  | .str value => .str value
  | .arr items => by
      refine .arr rfl fun i a b first second => ?_
      obtain rfl : a = b := Option.some.inj (first.symm.trans second)
      have := List.sizeOf_lt_of_mem (List.mem_of_getElem? first)
      exact Same.refl a
  | .obj members => by
      refine .obj (fun _ => rfl) fun key a b first second => ?_
      obtain rfl : a = b := Option.some.inj (first.symm.trans second)
      have := List.sizeOf_lt_of_mem (mem_of_lookup first)
      have : sizeOf (key, a) = 1 + sizeOf key + sizeOf a := rfl
      exact Same.refl a
termination_by value => sizeOf value
decreasing_by
  all_goals simp only [arr.sizeOf_spec, obj.sizeOf_spec]; omega

/-- Equal dictionaries have equal members. -/
theorem Same.get? {a b : Json} (same : a.Same b) (key : Text) :
    Option.Rel Same (a.get? key) (b.get? key) := by
  cases same with
  | obj names values =>
    rename_i members others
    show Option.Rel Same (members.lookup key) (others.lookup key)
    have name := names key
    cases first : members.lookup key <;> cases second : others.lookup key
    · exact .none
    · simp [first, second] at name
    · simp [first, second] at name
    · exact .some (values key _ _ first second)
  | null => exact .none
  | bool value => exact .none
  | int value => exact .none
  | str value => exact .none
  | arr length each => exact .none

/-! ## Readers -/

def text? : Json → Option Text
  | .str t => some t
  | _ => none

def int? : Json → Option Int
  | .int n => some n
  | _ => none

def bool? : Json → Option Bool
  | .bool b => some b
  | _ => none

theorem text?_str (t : Text) : text? (.str t) = some t := rfl

theorem int?_int (n : Int) : int? (.int n) = some n := rfl

theorem bool?_bool (b : Bool) : bool? (.bool b) = some b := rfl

section Readers

variable {α : Type} {read : Json → Option α}

/-- An array, each item read in the same way. -/
def items? (read : Json → Option α) : Json → Option (List α)
  | .arr items => items.mapM read
  | _ => none

/-- A member that has to be there. -/
def member? (key : Text) (read : Json → Option α) (value : Json) : Option α :=
  (value.get? key).bind read

/-- A member that may be left out. -/
def optional? (key : Text) (read : Json → Option α) (value : Json) : Option (Option α) :=
  (value.get? key).elim (some none) fun member => (read member).map some

/-- An array that is left out if it is empty. -/
def list? (key : Text) (read : Json → Option α) (value : Json) : Option (List α) :=
  (value.optional? key (items? read)).map fun items => items.getD []

/-- A reader that gives the same answer for equal dictionaries. -/
def Respects (read : Json → Option α) : Prop := ∀ a b : Json, a.Same b → read a = read b

/-- Arrays with equal items are read alike. -/
theorem Respects.mapM_eq (respects : Respects read) :
    ∀ {items others : List Json}, items.length = others.length →
      (∀ (i : Nat) (a b : Json), items[i]? = some a → others[i]? = some b → a.Same b) →
      items.mapM read = others.mapM read
  | [], [], _, _ => rfl
  | item :: items, other :: others, length, each => by
      have first : read item = read other := respects _ _ (each 0 _ _ rfl rfl)
      have rest : items.mapM read = others.mapM read :=
        respects.mapM_eq (Nat.succ.inj length) fun i a b left right => each (i + 1) a b left right
      rw [List.mapM_cons, List.mapM_cons, first, rest]

theorem Respects.items? (respects : Respects read) : Respects (items? read) := by
  intro a b same
  cases same with
  | arr length each => exact respects.mapM_eq length each
  | null => rfl
  | bool value => rfl
  | int value => rfl
  | str value => rfl
  | obj names values => rfl

theorem Respects.member? (respects : Respects read) (key : Text) :
    Respects (member? key read) := by
  intro a b same
  have equal := same.get? key
  unfold Json.member?
  generalize a.get? key = first, b.get? key = second at equal ⊢
  cases equal with
  | none => rfl
  | some equal => exact respects _ _ equal

theorem Respects.optional? (respects : Respects read) (key : Text) :
    Respects (optional? key read) := by
  intro a b same
  have equal := same.get? key
  unfold Json.optional?
  generalize a.get? key = first, b.get? key = second at equal ⊢
  cases equal with
  | none => rfl
  | some equal => exact congrArg (Option.map some) (respects _ _ equal)

/-- A member is read alike from values that have it in common. -/
theorem optional?_congr {key : Text} {a b : Json} (equal : a.get? key = b.get? key)
    (read : Json → Option α) : a.optional? key read = b.optional? key read := by
  unfold Json.optional?
  rw [equal]

theorem list?_congr {key : Text} {a b : Json} (equal : a.get? key = b.get? key)
    (read : Json → Option α) : a.list? key read = b.list? key read := by
  unfold Json.list?
  rw [optional?_congr equal]

theorem Respects.list? (respects : Respects read) (key : Text) : Respects (list? key read) := by
  intro a b same
  unfold Json.list?
  rw [respects.items?.optional? key a b same]

end Readers

def texts? : Json → Option (List Text) := items? text?

theorem respects_text? : Respects text? := by
  intro a b same
  cases same <;> rfl

theorem respects_int? : Respects int? := by
  intro a b same
  cases same <;> rfl

theorem respects_bool? : Respects bool? := by
  intro a b same
  cases same <;> rfl

theorem respects_texts? : Respects texts? := respects_text?.items?

end Json

/-! ## What is not written -/

def Parameter.erase (p : Parameter) : Parameter := { p with standalone := false }

def HttpResponse.erase (r : HttpResponse) : HttpResponse := { r with symbol := none }

def HttpParameter.erase (p : HttpParameter) : HttpParameter := { p with symbol := none }

/-- A body without its symbol and those of its parameters. -/
def HttpBody.erase (b : HttpBody) : HttpBody :=
  { b with parameters := b.parameters.map HttpParameter.erase, symbol := none }

/-- A table without the marks and symbols of its records. -/
def TagTable.erase (table : TagTable) : TagTable :=
  { table with
    parameters := table.parameters.map Parameter.erase
    httpResponses := table.httpResponses.map HttpResponse.erase
    httpParameters := table.httpParameters.map HttpParameter.erase
    httpBody := table.httpBody.map HttpBody.erase }

theorem HttpBody.toJson_erase (b : HttpBody) : b.erase.toJson = b.toJson := by
  simp only [HttpBody.toJson, HttpBody.erase, List.map_map]
  rfl

/-- What is erased has no part in the JSON form. -/
theorem TagTable.toJson_erase (table : TagTable) : table.erase.toJson = table.toJson := by
  simp only [TagTable.toJson, TagTable.fields, TagTable.erase, List.map_map]
  cases table.httpBody with
  | none => rfl
  | some body =>
    simp only [Option.map_some, HttpBody.toJson_erase]
    rfl

/-! ## Decoders -/

open Json

def Parameter.ofJson? (value : Json) : Option Parameter := do
  let name ← value.member? "name".toList text?
  let contents ← value.member? "contents".toList texts?
  return { name, contents }

def HttpResponse.ofJson? (value : Json) : Option HttpResponse := do
  let status ← value.member? "statusCode".toList int?
  let reason ← value.optional? "reason".toList text?
  let mediaType ← value.optional? "mediaType".toList text?
  let contents ← value.member? "contents".toList texts?
  return { status, reason, mediaType, contents }

def HttpParameter.ofJson? (value : Json) : Option HttpParameter := do
  let name ← value.member? "name".toList text?
  let source ← value.optional? "source".toList text?
  let contents ← value.member? "contents".toList texts?
  let required ← value.member? "required".toList bool?
  return { name, source, contents, required }

def HttpBody.ofJson? (value : Json) : Option HttpBody := do
  let mediaType ← value.optional? "mediaType".toList text?
  let contents ← value.member? "contents".toList texts?
  let parameters ← value.list? "parameters".toList HttpParameter.ofJson?
  return { mediaType, contents, parameters }

def SimpleTag.ofJson? (value : Json) : Option SimpleTag := do
  let name ← value.member? "tag".toList text?
  let contents ← value.member? "contents".toList texts?
  return { name, contents }

def TagTable.ofJson? (value : Json) : Option TagTable := do
  let parameters ← value.list? "parameters".toList Parameter.ofJson?
  let httpResponses ← value.list? "httpResponses".toList HttpResponse.ofJson?
  let httpParameters ← value.list? "httpParameters".toList HttpParameter.ofJson?
  let httpBody ← value.optional? "httpBody".toList HttpBody.ofJson?
  let returns ← value.list? "returns".toList texts?
  let throws ← value.list? "throws".toList texts?
  let others ← value.list? "otherTags".toList SimpleTag.ofJson?
  return { parameters, httpResponses, httpParameters, httpBody, returns, throws, others }

/-! ## Reading back -/

namespace Json

variable {α : Type}

/-- An array of written items is read back item by item. -/
theorem items?_map {β : Type} {read : Json → Option β} {write : α → Json} {keep : α → β}
    (reads : ∀ x : α, read (write x) = some (keep x)) :
    ∀ items : List α, items? read (.arr (items.map write)) = some (items.map keep)
  | [] => rfl
  | item :: items => by
      have rest : (items.map write).mapM read = some (items.map keep) := items?_map reads items
      show ((item :: items).map write).mapM read = some ((item :: items).map keep)
      rw [List.map_cons, List.mapM_cons, reads, rest]
      rfl

theorem texts?_texts (items : List Text) : texts? (texts items) = some items := by
  have reads : ∀ t : Text, text? (.str t) = some (id t) := text?_str
  have read := items?_map reads items
  rwa [List.map_id] at read

theorem member?_of_lookup {read : Json → Option α} {value : Json} {x : α}
    (reads : read value = some x) {key : Text} {members : Fields}
    (found : members.lookup key = some value) : member? key read (.obj members) = some x := by
  show (members.lookup key).bind read = some x
  rw [found, Option.bind_some, reads]

/-- A part that is written only if it is there is read back. -/
theorem optional?_of_lookup {β : Type} {read : Json → Option β} {write : α → Json} {keep : α → β}
    (reads : ∀ x : α, read (write x) = some (keep x)) {key : Text} {members : Fields}
    {part : Option α} (found : members.lookup key = part.map write) :
    optional? key read (.obj members) = some (part.map keep) := by
  show (members.lookup key).elim (some none) (fun member => (read member).map some) = _
  rw [found]
  cases part with
  | none => rfl
  | some x =>
    show (read (write x)).map some = some (some (keep x))
    rw [reads, Option.map_some]

/-- A collection that is written only if it has items is read back item by item. -/
theorem list?_of_lookup {β : Type} {read : Json → Option β} {write : α → Json} {keep : α → β}
    (reads : ∀ x : α, read (write x) = some (keep x)) {key : Text} {members : Fields}
    {items : List α}
    (found : members.lookup key = (arrayMember key (items.map write)).lookup key) :
    list? key read (.obj members) = some (items.map keep) := by
  show ((members.lookup key).elim (some none) fun member => (items? read member).map some).map _ = _
  rw [found]
  cases items with
  | nil => rfl
  | cons item rest =>
    have alone : (arrayMember key ((item :: rest).map write)).lookup key =
        some (.arr ((item :: rest).map write)) := by simp [arrayMember]
    rw [alone, Option.elim_some, items?_map reads]
    rfl

/-- A collection of records that are written whole is read back as it was. -/
theorem list?_of_lookup_whole {read : Json → Option α} {write : α → Json}
    (reads : ∀ x : α, read (write x) = some x) {key : Text} {members : Fields} {items : List α}
    (found : members.lookup key = (arrayMember key (items.map write)).lookup key) :
    list? key read (.obj members) = some items := by
  have whole : ∀ x : α, read (write x) = some (id x) := reads
  have read := list?_of_lookup whole found
  rwa [List.map_id] at read

end Json

@[simp] theorem lookup_member (key name : Text) (value : Json) (members : Fields) :
    List.lookup key ((name, value) :: members) =
      if key = name then some value else members.lookup key := by
  by_cases same : key = name
  · simp [same]
  · have differ : (key == name) = false := beq_false_of_ne same
    rw [List.lookup_cons, differ, if_neg same]

@[simp] theorem lookup_optionalMember (key name : Text) (t : Option Text) :
    (optionalMember name t).lookup key = if key = name then t.map Json.str else none := by
  cases t <;> simp [optionalMember]

@[simp] theorem lookup_contentsMember (key : Text) (contents : Contents) :
    (contentsMember contents).lookup key =
      if key = "contents".toList then some (texts contents) else none :=
  lookup_member key "contents".toList (texts contents) []

@[simp] theorem lookup_arrayMember_of_ne {key name : Text} (differ : key ≠ name) (items : List Json) :
    (arrayMember name items).lookup key = none := by
  cases items <;> simp [arrayMember, differ]

theorem optional?_text {key : Text} {members : Fields} {t : Option Text}
    (found : members.lookup key = t.map Json.str) :
    optional? key text? (.obj members) = some t := by
  have reads : ∀ t : Text, text? (.str t) = some (id t) := text?_str
  have read := optional?_of_lookup reads found
  rwa [Option.map_id] at read

theorem Parameter.ofJson?_toJson (p : Parameter) :
    Parameter.ofJson? p.toJson = some p.erase := by
  have name : p.toJson.member? "name".toList text? = some p.name :=
    member?_of_lookup (text?_str _) (by simp)
  have contents : p.toJson.member? "contents".toList texts? = some p.contents :=
    member?_of_lookup (texts?_texts _) (by simp)
  unfold Parameter.ofJson?
  rw [name, contents]
  rfl

/-- Each member is found under its name, and an absent one is read as empty. -/
theorem HttpResponse.ofJson?_toJson (r : HttpResponse) :
    HttpResponse.ofJson? r.toJson = some r.erase := by
  have status : r.toJson.member? "statusCode".toList int? = some r.status :=
    member?_of_lookup (int?_int _) (by simp)
  have reason : r.toJson.optional? "reason".toList text? = some r.reason :=
    optional?_text (by simp [List.lookup_append])
  have mediaType : r.toJson.optional? "mediaType".toList text? = some r.mediaType :=
    optional?_text (by simp [List.lookup_append])
  have contents : r.toJson.member? "contents".toList texts? = some r.contents :=
    member?_of_lookup (texts?_texts _)
      (by simp [List.lookup_append])
  unfold HttpResponse.ofJson?
  rw [status, reason, mediaType, contents]
  rfl

/-- As for a response, with a name in place of the code. -/
theorem HttpParameter.ofJson?_toJson (p : HttpParameter) :
    HttpParameter.ofJson? p.toJson = some p.erase := by
  have name : p.toJson.member? "name".toList text? = some p.name :=
    member?_of_lookup (text?_str _) (by simp)
  have source : p.toJson.optional? "source".toList text? = some p.source :=
    optional?_text (by simp [List.lookup_append])
  have contents : p.toJson.member? "contents".toList texts? = some p.contents :=
    member?_of_lookup (texts?_texts _)
      (by simp [List.lookup_append])
  have required : p.toJson.member? "required".toList bool? = some p.required :=
    member?_of_lookup (bool?_bool _) (by simp [List.lookup_append])
  unfold HttpParameter.ofJson?
  rw [name, source, contents, required]
  rfl

/-- A body holds parameters, which are read back one by one. -/
theorem HttpBody.ofJson?_toJson (b : HttpBody) : HttpBody.ofJson? b.toJson = some b.erase := by
  have mediaType : b.toJson.optional? "mediaType".toList text? = some b.mediaType :=
    optional?_text
      (by simp [List.lookup_append])
  have contents : b.toJson.member? "contents".toList texts? = some b.contents :=
    member?_of_lookup (texts?_texts _)
      (by simp [List.lookup_append])
  have parameters : b.toJson.list? "parameters".toList HttpParameter.ofJson? =
      some (b.parameters.map HttpParameter.erase) :=
    list?_of_lookup HttpParameter.ofJson?_toJson
      (by simp [List.lookup_append])
  unfold HttpBody.ofJson?
  rw [mediaType, contents, parameters]
  rfl

theorem SimpleTag.ofJson?_toJson (t : SimpleTag) : SimpleTag.ofJson? t.toJson = some t := by
  have name : t.toJson.member? "tag".toList text? = some t.name :=
    member?_of_lookup (text?_str _) (by simp)
  have contents : t.toJson.member? "contents".toList texts? = some t.contents :=
    member?_of_lookup (texts?_texts _) (by simp)
  unfold SimpleTag.ofJson?
  rw [name, contents]
  rfl

/-- The member of a body, which is written even if nothing is in it. -/
def bodyMember (body : Option HttpBody) : Fields :=
  (body.map fun body => ("httpBody".toList, body.toJson)).toList

@[simp] theorem lookup_bodyMember (key : Text) (body : Option HttpBody) :
    (bodyMember body).lookup key =
      if key = "httpBody".toList then body.map HttpBody.toJson else none := by
  cases body with
  | none => exact (ite_self none).symm
  | some body => exact lookup_member key "httpBody".toList body.toJson []

/-- Every collection is a member of its own that is left out if it is empty. -/
theorem TagTable.fields_eq (table : TagTable) :
    table.fields =
      arrayMember "parameters".toList (table.parameters.map Parameter.toJson) ++
      arrayMember "httpResponses".toList (table.httpResponses.map HttpResponse.toJson) ++
      arrayMember "httpParameters".toList (table.httpParameters.map HttpParameter.toJson) ++
      bodyMember table.httpBody ++
      arrayMember "returns".toList (table.returns.map texts) ++
      arrayMember "throws".toList (table.throws.map texts) ++
      arrayMember "otherTags".toList (table.others.map SimpleTag.toJson) := by
  unfold TagTable.fields
  cases table.httpBody <;> rfl

/-- A table is read back, but for what is not written. -/
theorem TagTable.ofJson?_toJson (table : TagTable) :
    TagTable.ofJson? table.toJson = some table.erase := by
  have parameters : table.toJson.list? "parameters".toList Parameter.ofJson? =
      some (table.parameters.map Parameter.erase) :=
    list?_of_lookup Parameter.ofJson?_toJson (by simp [TagTable.fields_eq, List.lookup_append])
  have httpResponses : table.toJson.list? "httpResponses".toList HttpResponse.ofJson? =
      some (table.httpResponses.map HttpResponse.erase) :=
    list?_of_lookup HttpResponse.ofJson?_toJson (by simp [TagTable.fields_eq, List.lookup_append])
  have httpParameters : table.toJson.list? "httpParameters".toList HttpParameter.ofJson? =
      some (table.httpParameters.map HttpParameter.erase) :=
    list?_of_lookup HttpParameter.ofJson?_toJson (by simp [TagTable.fields_eq, List.lookup_append])
  have httpBody : table.toJson.optional? "httpBody".toList HttpBody.ofJson? =
      some (table.httpBody.map HttpBody.erase) :=
    optional?_of_lookup HttpBody.ofJson?_toJson (by simp [TagTable.fields_eq, List.lookup_append])
  have returns : table.toJson.list? "returns".toList texts? = some table.returns :=
    list?_of_lookup_whole texts?_texts (by simp [TagTable.fields_eq, List.lookup_append])
  have throws : table.toJson.list? "throws".toList texts? = some table.throws :=
    list?_of_lookup_whole texts?_texts (by simp [TagTable.fields_eq, List.lookup_append])
  have others : table.toJson.list? "otherTags".toList SimpleTag.ofJson? = some table.others :=
    list?_of_lookup_whole SimpleTag.ofJson?_toJson
      (by simp [TagTable.fields_eq, List.lookup_append])
  unfold TagTable.ofJson?
  rw [parameters, httpResponses, httpParameters, httpBody, returns, throws, others]
  rfl

/-! ## Equal dictionaries are decoded alike -/

/-- The names that the members of a table can have, in order. -/
def TagTable.names : List Text :=
  ["parameters".toList, "httpResponses".toList, "httpParameters".toList, "httpBody".toList,
    "returns".toList, "throws".toList, "otherTags".toList]

/-- The names that the members of a model can have, in order. -/
def Documentation.names : List Text := "abstract".toList :: "discussion".toList :: TagTable.names

theorem Documentation.names_nodup : Documentation.names.Nodup := by decide

theorem Parameter.respects_ofJson? : Respects Parameter.ofJson? := by
  intro a b same
  unfold Parameter.ofJson?
  rw [respects_text?.member? _ a b same, respects_texts?.member? _ a b same]

theorem HttpResponse.respects_ofJson? : Respects HttpResponse.ofJson? := by
  intro a b same
  unfold HttpResponse.ofJson?
  rw [respects_int?.member? _ a b same, respects_text?.optional? "reason".toList a b same,
    respects_text?.optional? "mediaType".toList a b same, respects_texts?.member? _ a b same]

theorem HttpParameter.respects_ofJson? : Respects HttpParameter.ofJson? := by
  intro a b same
  unfold HttpParameter.ofJson?
  rw [respects_text?.member? _ a b same, respects_text?.optional? _ a b same,
    respects_texts?.member? _ a b same, respects_bool?.member? _ a b same]

theorem HttpBody.respects_ofJson? : Respects HttpBody.ofJson? := by
  intro a b same
  unfold HttpBody.ofJson?
  rw [respects_text?.optional? _ a b same, respects_texts?.member? _ a b same,
    HttpParameter.respects_ofJson?.list? _ a b same]

theorem SimpleTag.respects_ofJson? : Respects SimpleTag.ofJson? := by
  intro a b same
  unfold SimpleTag.ofJson?
  rw [respects_text?.member? _ a b same, respects_texts?.member? _ a b same]

theorem TagTable.respects_ofJson? : Respects TagTable.ofJson? := by
  intro a b same
  unfold TagTable.ofJson?
  rw [Parameter.respects_ofJson?.list? _ a b same, HttpResponse.respects_ofJson?.list? _ a b same,
    HttpParameter.respects_ofJson?.list? _ a b same, HttpBody.respects_ofJson?.optional? _ a b same,
    respects_texts?.list? "returns".toList a b same,
    respects_texts?.list? "throws".toList a b same,
    SimpleTag.respects_ofJson?.list? _ a b same]

/-- A table is decoded from the members with its names alone. -/
theorem TagTable.ofJson?_congr {a b : Json}
    (equal : ∀ key ∈ TagTable.names, a.get? key = b.get? key) :
    TagTable.ofJson? a = TagTable.ofJson? b := by
  unfold TagTable.ofJson?
  rw [list?_congr (equal "parameters".toList (by decide)),
    list?_congr (equal "httpResponses".toList (by decide)),
    list?_congr (equal "httpParameters".toList (by decide)),
    optional?_congr (equal "httpBody".toList (by decide)),
    list?_congr (equal "returns".toList (by decide)),
    list?_congr (equal "throws".toList (by decide)),
    list?_congr (equal "otherTags".toList (by decide))]

/-- Tables with equal dictionaries agree in all that is written. -/
theorem TagTable.erase_eq_of_same {table other : TagTable}
    (same : table.toJson.Same other.toJson) : table.erase = other.erase := by
  have decoded := TagTable.respects_ofJson? _ _ same
  rw [TagTable.ofJson?_toJson, TagTable.ofJson?_toJson] at decoded
  exact Option.some.inj decoded

theorem TagTable.toJson_eq_of_erase {table other : TagTable}
    (equal : table.erase = other.erase) : table.toJson = other.toJson := by
  rw [← TagTable.toJson_erase, equal, TagTable.toJson_erase]

theorem TagTable.toJson_eq_empty_iff (table : TagTable) :
    table.toJson = .obj [] ↔ table.isEmpty = true := by
  have array : ∀ (key : Text) (items : List Json), arrayMember key items = [] ↔ items = [] := by
    intro key items
    cases items <;> simp [arrayMember]
  have body : bodyMember table.httpBody = [] ↔ table.httpBody = none := by
    cases table.httpBody <;> simp [bodyMember]
  simp only [TagTable.toJson, TagTable.fields_eq, TagTable.isEmpty, Json.obj.injEq,
    List.append_eq_nil_iff, array, body, List.map_eq_nil_iff, Bool.and_eq_true,
    List.isEmpty_iff, Option.isNone_iff_eq_none]

/-! ## Names and values -/

/-- An array with items or an object with members. -/
def Json.IsFilled : Json → Prop
  | .arr items => items ≠ []
  | .obj members => members ≠ []
  | _ => False

namespace Fields

def names (fields : Fields) : List Text := fields.map Prod.fst

theorem names_append (fields others : Fields) :
    names (fields ++ others) = names fields ++ names others := List.map_append

/-- A member is set: it takes the place of one with its name, or it comes last. -/
def put (key : Text) (value : Json) : Fields → Fields
  | [] => [(key, value)]
  | (name, other) :: fields =>
    if name = key then (name, value) :: fields else (name, other) :: put key value fields

/-- Members are set one after the other. -/
def update (fields others : Fields) : Fields :=
  others.foldl (fun fields member => put member.1 member.2 fields) fields

theorem put_of_not_mem {key : Text} (value : Json) :
    ∀ {fields : Fields}, key ∉ names fields → put key value fields = fields ++ [(key, value)]
  | [], _ => rfl
  | (name, other) :: fields, absent => by
      have apart : key ≠ name ∧ key ∉ names fields := by simpa [names] using absent
      show (if name = key then _ else (name, other) :: put key value fields) = _
      rw [if_neg apart.1.symm, put_of_not_mem value apart.2, List.cons_append]

/-- Members whose names are new and differ from one another are appended. -/
theorem update_eq_append {others : Fields} :
    ∀ {fields : Fields}, (names (fields ++ others)).Nodup →
      update fields others = fields ++ others := by
  induction others with
  | nil => exact fun _ => (List.append_nil _).symm
  | cons member others ih =>
    intro fields distinct
    have split : fields ++ member :: others = fields ++ [member] ++ others := by simp
    have absent : member.1 ∉ names fields := by
      intro taken
      rw [names_append, List.nodup_append] at distinct
      exact distinct.2.2 _ taken _ List.mem_cons_self rfl
    show update (put member.1 member.2 fields) others = _
    rw [put_of_not_mem _ absent, split]
    exact ih (split ▸ distinct)

/-- Every value is an array with items or an object with members. -/
def Filled (fields : Fields) : Prop := ∀ member ∈ fields, member.2.IsFilled

theorem Filled.append {fields others : Fields} (first : Filled fields) (second : Filled others) :
    Filled (fields ++ others) := by
  intro member listed
  rcases List.mem_append.mp listed with left | right
  · exact first member left
  · exact second member right

end Fields

theorem names_arrayMember (key : Text) (items : List Json) :
    (Fields.names (arrayMember key items)).Sublist [key] := by
  cases items <;> simp [Fields.names, arrayMember]

theorem names_bodyMember (body : Option HttpBody) :
    (Fields.names (bodyMember body)).Sublist ["httpBody".toList] := by
  cases body <;> simp [Fields.names, bodyMember]

/-- The members of a table come in a fixed order. -/
theorem TagTable.names_fields (table : TagTable) :
    (Fields.names table.fields).Sublist TagTable.names := by
  rw [TagTable.fields_eq]
  simp only [Fields.names_append]
  exact ((((((names_arrayMember _ _).append (names_arrayMember _ _)).append
    (names_arrayMember _ _)).append (names_bodyMember _)).append (names_arrayMember _ _)).append
    (names_arrayMember _ _)).append (names_arrayMember _ _)

theorem filled_arrayMember (key : Text) (items : List Json) :
    Fields.Filled (arrayMember key items) := by
  intro member listed
  cases items with
  | nil => simp [arrayMember] at listed
  | cons item items =>
    obtain rfl : member = (key, .arr (item :: items)) := by simpa [arrayMember] using listed
    exact List.cons_ne_nil _ _

/-- Even a body with nothing in it has its contents as a member. -/
theorem filled_bodyMember (body : Option HttpBody) : Fields.Filled (bodyMember body) := by
  intro member listed
  cases body with
  | none => simp [bodyMember] at listed
  | some body =>
    obtain rfl : member = ("httpBody".toList, body.toJson) := List.mem_singleton.mp listed
    show _ ++ contentsMember body.contents ++ _ ≠ []
    simp [contentsMember]

theorem TagTable.filled_fields (table : TagTable) : Fields.Filled table.fields := by
  rw [TagTable.fields_eq]
  exact ((((((filled_arrayMember _ _).append (filled_arrayMember _ _)).append
    (filled_arrayMember _ _)).append (filled_bodyMember _)).append (filled_arrayMember _ _)).append
    (filled_arrayMember _ _)).append (filled_arrayMember _ _)

/-! ## Models -/

namespace Documentation

def ofJson? (value : Json) : Option Documentation := do
  let abstract ← value.list? "abstract".toList text?
  let discussion ← value.list? "discussion".toList text?
  let tags ← TagTable.ofJson? value
  return { abstract := some abstract, discussion := some discussion, tags := some tags }

/-- The tags of a model: none if it has no table. -/
def table (m : Documentation) : TagTable := m.tags.getD {}

/-- The members of the sections of a model. -/
def sectionFields (m : Documentation) : Fields := { m with tags := none : Documentation }.fields

/-- A model with empty sections and an empty table for absent ones, and without what is not
written. -/
def settled (m : Documentation) : Documentation :=
  { abstract := some (m.abstract.getD [])
    discussion := some (m.discussion.getD [])
    tags := some m.table.erase }

theorem sectionMember_eq (key : Text) :
    ∀ entries : Option (List Text),
      sectionMember key entries = arrayMember key ((entries.getD []).map Json.str)
  | none => rfl
  | some [] => rfl
  | some (_ :: _) => rfl

theorem sectionFields_eq (m : Documentation) :
    m.sectionFields = arrayMember "abstract".toList ((m.abstract.getD []).map Json.str) ++
      arrayMember "discussion".toList ((m.discussion.getD []).map Json.str) := by
  rw [← sectionMember_eq, ← sectionMember_eq]
  exact List.append_nil _

theorem fields_eq (m : Documentation) : m.fields = m.sectionFields ++ m.table.fields := by
  obtain ⟨abstract, discussion, tags⟩ := m
  cases tags with
  | none => exact (List.append_nil _).symm
  | some table =>
    rw [sectionFields_eq, ← sectionMember_eq, ← sectionMember_eq]
    rfl

/-- The members of a model come in a fixed order. -/
theorem names_fields (m : Documentation) :
    (Fields.names m.fields).Sublist Documentation.names := by
  rw [fields_eq, sectionFields_eq, Fields.names_append, Fields.names_append]
  exact ((names_arrayMember _ _).append (names_arrayMember _ _)).append m.table.names_fields

theorem nodup_names (m : Documentation) : (Fields.names m.fields).Nodup :=
  m.names_fields.nodup names_nodup

theorem filled_fields (m : Documentation) : Fields.Filled m.fields := by
  rw [fields_eq, sectionFields_eq]
  exact ((filled_arrayMember _ _).append (filled_arrayMember _ _)).append m.table.filled_fields

/-- The names of the sections are not among those of the tags. -/
theorem lookup_sectionFields (m : Documentation) {key : Text} (tag : key ∈ TagTable.names) :
    m.sectionFields.lookup key = none := by
  have apart : key ≠ "abstract".toList ∧ key ≠ "discussion".toList := by
    have distinct := names_nodup
    simp only [Documentation.names, List.nodup_cons, List.mem_cons, not_or] at distinct
    exact ⟨fun same => distinct.1.2 (same ▸ tag), fun same => distinct.2.1 (same ▸ tag)⟩
  rw [sectionFields_eq, List.lookup_append, lookup_arrayMember_of_ne apart.1,
    lookup_arrayMember_of_ne apart.2]
  rfl

/-- A model is read back, but for what is not written and for what is absent rather than empty. -/
theorem ofJson?_toJson (m : Documentation) : ofJson? m.toJson = some m.settled := by
  have shape : m.toJson = .obj (m.sectionFields ++ m.table.fields) := congrArg Json.obj m.fields_eq
  have abstract : m.toJson.list? "abstract".toList text? = some (m.abstract.getD []) := by
    rw [shape]
    refine list?_of_lookup_whole text?_str ?_
    simp [sectionFields_eq, TagTable.fields_eq, List.lookup_append]
  have discussion : m.toJson.list? "discussion".toList text? = some (m.discussion.getD []) := by
    rw [shape]
    refine list?_of_lookup_whole text?_str ?_
    simp [sectionFields_eq, TagTable.fields_eq, List.lookup_append]
  have tags : TagTable.ofJson? m.toJson = some m.table.erase := by
    rw [← TagTable.ofJson?_toJson, shape]
    refine TagTable.ofJson?_congr fun key tag => ?_
    show (m.sectionFields ++ m.table.fields).lookup key = m.table.fields.lookup key
    rw [List.lookup_append, m.lookup_sectionFields tag, Option.none_or]
  unfold ofJson?
  rw [abstract, discussion, tags]
  rfl

/-- The update by the tags meets no name of a section. -/
theorem apart_names (m : Documentation) :
    ∀ name ∈ Fields.names m.sectionFields, name ∉ Fields.names m.table.fields := by
  have distinct := m.nodup_names
  rw [fields_eq, Fields.names_append, List.nodup_append] at distinct
  exact fun name first second => distinct.2.2 name first name second rfl

theorem update_fields (m : Documentation) :
    Fields.update m.sectionFields m.table.fields = m.fields := by
  have distinct := m.nodup_names
  rw [fields_eq] at distinct ⊢
  exact Fields.update_eq_append distinct

end Documentation

/-- **The JSON form keeps all but the marks and symbols that it is meant to omit.** A table is decoded
to itself without them, so two tables have the same form exactly if they agree in the rest, also when
the order of members does not count, and only an empty table has an empty form. A model has its
members in a fixed order, its tags set no member of a section anew, no member is empty, and it is
decoded to itself with empty parts for absent ones. -/
theorem toJson_recoverable :
    (∀ c : TagTable, TagTable.ofJson? c.toJson = some c.erase) ∧
    (∀ c d : TagTable, (c.toJson.Same d.toJson ↔ c.erase = d.erase) ∧
      (c.toJson = d.toJson ↔ c.erase = d.erase)) ∧
    (∀ c : TagTable, c.toJson = .obj [] ↔ c.isEmpty = true) ∧
    ∀ m : Documentation,
      (Fields.names m.fields).Sublist Documentation.names ∧
      (Fields.names m.fields).Nodup ∧
      Fields.update m.sectionFields m.table.fields = m.fields ∧
      (∀ name ∈ Fields.names m.sectionFields, name ∉ Fields.names m.table.fields) ∧
      Fields.Filled m.fields ∧
      Documentation.ofJson? m.toJson = some m.settled := by
  have same_of_eq : ∀ c d : TagTable, c.toJson = d.toJson → c.toJson.Same d.toJson :=
    fun c d equal => equal ▸ Same.refl c.toJson
  refine ⟨TagTable.ofJson?_toJson, fun c d => ⟨?_, ?_⟩, TagTable.toJson_eq_empty_iff, fun m => ?_⟩
  · constructor
    · exact TagTable.erase_eq_of_same
    · intro agree
      exact same_of_eq c d (TagTable.toJson_eq_of_erase agree)
  · constructor
    · intro equal
      exact TagTable.erase_eq_of_same (same_of_eq c d equal)
    · exact TagTable.toJson_eq_of_erase
  · exact ⟨m.names_fields, m.nodup_names, m.update_fields, m.apart_names, m.filled_fields,
      m.ofJson?_toJson⟩

end DocComment
