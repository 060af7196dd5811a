/- What a tally says of its records. A model contributes the size of each collection of tags that is not empty,
in the order in which the collections are written (`Documentation.shares`). Counting goes through these
shares one by one: a collection is listed when its first share is met, and its count is the sum of its shares
(`Counted.add`). So a tally is determined by the models, it adds up when lists of records are joined, and its
numbers do not depend on their order (`ofRecords_describes`). -/
import DocComment.Proofs.Serialization
import DocComment.Tally
import Mathlib.Algebra.BigOperators.Group.List.Basic
import Mathlib.Algebra.GroupWithZero.Nat
import Mathlib.Data.List.Induction
import Mathlib.Data.List.Nodup

namespace DocComment

set_option autoImplicit false

/-! ## Collections of tags -/

/-- A collection of tags that a model can have. -/
inductive TagGroup where
  | parameters
  | httpResponses
  | httpParameters
  | httpBody
  | returns
  | throws
  | others
  deriving DecidableEq, Repr

namespace TagGroup

def all : List TagGroup :=
  [parameters, httpResponses, httpParameters, httpBody, returns, throws, others]

def key : TagGroup → Text
  | parameters => "parameters".toList
  | httpResponses => "httpResponses".toList
  | httpParameters => "httpParameters".toList
  | httpBody => "httpBody".toList
  | returns => "returns".toList
  | throws => "throws".toList
  | others => "otherTags".toList

/-- How many entries a collection has. A body is one entry. -/
def size (table : TagTable) : TagGroup → Nat
  | parameters => table.parameters.length
  | httpResponses => table.httpResponses.length
  | httpParameters => table.httpParameters.length
  | httpBody => table.httpBody.toList.length
  | returns => table.returns.length
  | throws => table.throws.length
  | others => table.others.length

def member (table : TagTable) : TagGroup → Fields
  | parameters => arrayMember parameters.key (table.parameters.map Parameter.toJson)
  | httpResponses => arrayMember httpResponses.key (table.httpResponses.map HttpResponse.toJson)
  | httpParameters => arrayMember httpParameters.key (table.httpParameters.map HttpParameter.toJson)
  | httpBody => bodyMember table.httpBody
  | returns => arrayMember returns.key (table.returns.map Json.texts)
  | throws => arrayMember throws.key (table.throws.map Json.texts)
  | others => arrayMember others.key (table.others.map SimpleTag.toJson)

theorem mem_all (group : TagGroup) : group ∈ all := by cases group <;> decide

theorem key_injective : Function.Injective key := by
  intro group other same
  have distinct : (all.map key).Nodup := by decide
  exact List.inj_on_of_nodup_map distinct (mem_all group) (mem_all other) same

theorem isSection_key (group : TagGroup) : Tally.isSection group.key = false := by
  cases group <;> decide

end TagGroup

theorem TagTable.fields_eq_flatMap (table : TagTable) :
    table.fields = TagGroup.all.flatMap (TagGroup.member table) := by
  rw [TagTable.fields_eq]
  simp only [TagGroup.all, List.flatMap_cons, List.flatMap_nil, List.append_nil, List.append_assoc]
  rfl

def Documentation.size (m : Documentation) (group : TagGroup) : Nat := group.size m.table

def Documentation.shares (m : Documentation) : List (TagGroup × Nat) :=
  TagGroup.all.map fun group => (group, m.size group)

/-- The collections of a model that are not empty. -/
def Documentation.filled (m : Documentation) : List TagGroup :=
  TagGroup.all.filter fun group => m.size group ≠ 0

namespace Tally

/-! ## One model -/

/-- Counts with the entries of a collection. An empty one leaves no trace. -/
def addShare (counts : List (Text × Nat)) (share : TagGroup × Nat) : List (Text × Nat) :=
  if share.2 = 0 then counts else addCount share.1.key share.2 counts

/-- Members are counted one after the other. -/
theorem addMembers_append (counts : List (Text × Nat)) (members others : Fields) :
    addMembers counts (members ++ others) =
      addMembers counts members >>= fun counts => addMembers counts others := by
  induction members generalizing counts with
  | nil => rfl
  | cons member members ih =>
      obtain ⟨key, value⟩ := member
      rw [List.cons_append, addMembers, addMembers]
      split
      · exact ih counts
      · cases entries key value with
        | error fault => rfl
        | ok n => exact ih (addCount key n counts)

theorem addMembers_section {key : Text} (isSection : isSection key = true)
    (counts : List (Text × Nat)) (items : List Json) :
    addMembers counts (arrayMember key items) = .ok counts := by
  cases items with
  | nil => rfl
  | cons item items =>
      show addMembers counts [(key, .arr (item :: items))] = _
      rw [addMembers, if_pos isSection, addMembers]

theorem addMembers_array {group : TagGroup} (other : group ≠ .httpBody)
    (counts : List (Text × Nat)) (items : List Json) :
    addMembers counts (arrayMember group.key items) = .ok (addShare counts (group, items.length)) := by
  cases items with
  | nil => rfl
  | cons item items =>
      have named : group.key ≠ "httpBody".toList := fun same => other (TagGroup.key_injective same)
      show addMembers counts [(group.key, .arr (item :: items))] = _
      rw [addMembers, group.isSection_key, entries, if_neg named]
      rfl

/-- Every collection is counted by its size. -/
theorem addMembers_member (table : TagTable) (group : TagGroup) (counts : List (Text × Nat)) :
    addMembers counts (group.member table) = .ok (addShare counts (group, group.size table)) := by
  cases group with
  | httpBody =>
      show addMembers counts (bodyMember table.httpBody) = _
      unfold TagGroup.size
      cases table.httpBody <;> rfl
  | _ =>
      simp only [TagGroup.member, TagGroup.size]
      rw [addMembers_array (by decide), List.length_map]

theorem addMembers_table (table : TagTable) (groups : List TagGroup) (counts : List (Text × Nat)) :
    addMembers counts (groups.flatMap (TagGroup.member table)) =
      .ok ((groups.map fun group => (group, group.size table)).foldl addShare counts) := by
  induction groups generalizing counts with
  | nil => rfl
  | cons group groups ih =>
      rw [List.flatMap_cons, addMembers_append, addMembers_member]
      exact ih (addShare counts (group, group.size table))

/-- A model is counted by its shares. -/
theorem addMembers_fields (m : Documentation) (counts : List (Text × Nat)) :
    addMembers counts m.fields = .ok (m.shares.foldl addShare counts) := by
  rw [m.fields_eq, m.sectionFields_eq, addMembers_append, addMembers_append,
    addMembers_section (by decide)]
  show addMembers counts _ >>= _ = _
  rw [addMembers_section (by decide)]
  show addMembers counts m.table.fields = _
  rw [TagTable.fields_eq_flatMap, addMembers_table]
  rfl

/-! ## Counting -/

/-- The collections of shares that are not empty, one after the other. -/
def listed (shares : List (TagGroup × Nat)) : List TagGroup :=
  (shares.filter fun share => share.2 ≠ 0).map Prod.fst

/-- The sum of the shares of a collection. -/
def totalOf (shares : List (TagGroup × Nat)) (group : TagGroup) : Nat :=
  (shares.map fun share => if share.1 = group then share.2 else 0).sum

/-- Counts of some shares: a collection is listed at its first share that is not empty, with the sum of
all its shares. -/
def Counted (counts : List (Text × Nat)) (shares : List (TagGroup × Nat)) : Prop :=
  counts = (listed shares).eraseDups.map fun group => (group.key, totalOf shares group)

theorem eraseDups_concat {α : Type} [DecidableEq α] (xs : List α) (x : α) :
    (xs ++ [x]).eraseDups = if x ∈ xs then xs.eraseDups else xs.eraseDups ++ [x] := by
  rw [List.eraseDups_append]
  by_cases old : x ∈ xs
  · simp [List.removeAll, old]
  · simp [List.removeAll, old, List.eraseDups_cons]

theorem nodup_eraseDups {α : Type} [DecidableEq α] (xs : List α) : xs.eraseDups.Nodup := by
  induction xs using List.reverseRecOn with
  | nil => exact List.nodup_nil
  | append_singleton xs x ih =>
      rw [eraseDups_concat]
      split
      · exact ih
      · next new =>
          refine List.nodup_append.mpr ⟨ih, List.nodup_singleton x, ?_⟩
          intro y first z second same
          rw [same, List.mem_singleton.mp second] at first
          exact new (List.mem_eraseDups.mp first)

theorem listed_concat (shares : List (TagGroup × Nat)) (share : TagGroup × Nat) :
    listed (shares ++ [share]) =
      if share.2 = 0 then listed shares else listed shares ++ [share.1] := by
  by_cases none : share.2 = 0
  · simp [listed, none]
  · simp [listed, none]

theorem totalOf_concat (shares : List (TagGroup × Nat)) (share : TagGroup × Nat) (group : TagGroup) :
    totalOf (shares ++ [share]) group =
      totalOf shares group + if share.1 = group then share.2 else 0 := by
  simp [totalOf]

theorem totalOf_eq_zero {shares : List (TagGroup × Nat)} {group : TagGroup}
    (absent : group ∉ listed shares) : totalOf shares group = 0 := by
  apply List.sum_eq_zero
  intro n member
  obtain ⟨share, present, rfl⟩ := List.mem_map.mp member
  by_cases same : share.1 = group
  · rw [if_pos same]
    by_contra filled
    exact absent (List.mem_map.mpr ⟨share, List.mem_filter.mpr ⟨present, by simpa using filled⟩, same⟩)
  · rw [if_neg same]

section Listing

variable {groups : List TagGroup} (total : TagGroup → Nat) {group : TagGroup} (n : Nat)

theorem addCount_new (absent : group ∉ groups) :
    addCount group.key n (groups.map fun g => (g.key, total g)) =
      (groups.map fun g => (g.key, total g)) ++ [(group.key, n)] := by
  induction groups with
  | nil => rfl
  | cons first groups ih =>
      obtain ⟨differs, later⟩ := not_or.mp (mt List.mem_cons.mpr absent)
      have apart : first.key ≠ group.key := fun same => differs (TagGroup.key_injective same).symm
      rw [List.map_cons, addCount, if_neg apart, ih later, List.cons_append]

/-- A key occurs once, so only its own count grows, and the order stays. -/
theorem addCount_old (distinct : groups.Nodup) (present : group ∈ groups) :
    addCount group.key n (groups.map fun g => (g.key, total g)) =
      groups.map fun g => (g.key, total g + if group = g then n else 0) := by
  induction groups with
  | nil => cases present
  | cons first groups ih =>
      obtain ⟨once, rest⟩ := List.nodup_cons.mp distinct
      rw [List.map_cons, addCount]
      by_cases same : group = first
      · subst same
        have others : (groups.map fun g => (g.key, total g + if group = g then n else 0)) =
            groups.map fun g => (g.key, total g) := by
          apply List.map_congr_left
          intro g later
          rw [if_neg fun equal : group = g => once (equal ▸ later), Nat.add_zero]
        rw [if_pos rfl, List.map_cons, if_pos rfl, others]
      · have apart : first.key ≠ group.key := fun equal => same (TagGroup.key_injective equal).symm
        have later : group ∈ groups := (List.mem_cons.mp present).resolve_left same
        rw [if_neg apart, ih rest later, List.map_cons, if_neg same, Nat.add_zero]

end Listing

/-- One more share is counted. -/
theorem Counted.add {counts : List (Text × Nat)} {shares : List (TagGroup × Nat)}
    (counted : Counted counts shares) (share : TagGroup × Nat) :
    Counted (addShare counts share) (shares ++ [share]) := by
  obtain ⟨group, n⟩ := share
  unfold Counted at counted ⊢
  subst counted
  rw [addShare, listed_concat]
  simp only [totalOf_concat]
  by_cases none : n = 0
  · simp [none]
  · rw [if_neg none, if_neg none, eraseDups_concat]
    by_cases old : group ∈ listed shares
    · rw [if_pos old]
      exact addCount_old _ n (nodup_eraseDups _) (List.mem_eraseDups.mpr old)
    · have absent : group ∉ (listed shares).eraseDups := mt List.mem_eraseDups.mp old
      have others : ∀ g ∈ (listed shares).eraseDups, (if group = g then n else 0) = 0 := by
        intro g present
        exact if_neg fun same : group = g => absent (same ▸ present)
      rw [if_neg old, addCount_new _ n absent, List.map_append, List.map_singleton,
        totalOf_eq_zero old, if_pos rfl, Nat.zero_add]
      congr 1
      apply List.map_congr_left
      intro g present
      rw [others g present, Nat.add_zero]

theorem Counted.addAll {counts : List (Text × Nat)} {shares : List (TagGroup × Nat)}
    (counted : Counted counts shares) (more : List (TagGroup × Nat)) :
    Counted (more.foldl addShare counts) (shares ++ more) := by
  induction more generalizing counts shares with
  | nil => rwa [List.append_nil]
  | cons share more ih =>
      rw [List.foldl_cons, ← List.singleton_append, ← List.append_assoc]
      exact ih (counted.add share)

/-! ## Tallies of models -/

def total (models : List Documentation) (group : TagGroup) : Nat :=
  (models.map fun m => m.size group).sum

theorem listed_shares (models : List Documentation) :
    listed (models.flatMap Documentation.shares) = models.flatMap Documentation.filled := by
  have one : ∀ m : Documentation, listed m.shares = m.filled := by
    intro m
    rw [listed, Documentation.shares, List.filter_map, List.map_map]
    exact List.map_id _
  rw [listed, List.filter_flatMap, List.map_flatMap]
  exact congrArg (models.flatMap ·) (funext one)

/-- The shares of all models in one collection add up to its total. -/
theorem totalOf_shares (models : List Documentation) (group : TagGroup) :
    totalOf (models.flatMap Documentation.shares) group = total models group := by
  have one : ∀ m : Documentation, totalOf m.shares group = m.size group := by
    intro m
    cases group <;> simp [totalOf, Documentation.shares, TagGroup.all]
  induction models with
  | nil => rfl
  | cons m models ih =>
      have split : totalOf (m.shares ++ models.flatMap Documentation.shares) group =
          totalOf m.shares group + totalOf (models.flatMap Documentation.shares) group := by
        simp [totalOf]
      rw [List.flatMap_cons, split, ih, one, total, total, List.map_cons, List.sum_cons]

def hasEntries (entries : Option (List Text)) : Bool := !(entries.getD []).isEmpty

/-- What a tally of some models has to say. -/
structure Describes (tally : Tally) (models : List Documentation) : Prop where
  files : tally.files = models.length
  withAbstract : tally.withAbstract = models.countP fun m => hasEntries m.abstract
  withDiscussion : tally.withDiscussion = models.countP fun m => hasEntries m.discussion
  /-- Collections come in the order in which they are first met, each with the number of its entries. -/
  counts : tally.counts = (models.flatMap Documentation.filled).eraseDups.map fun group =>
    (group.key, total models group)

theorem isSome_lookup_arrayMember (key : Text) (items : List Json) :
    ((arrayMember key items).lookup key).isSome = !items.isEmpty := by
  cases items with
  | nil => rfl
  | cons item items =>
      show (List.lookup key [(key, Json.arr (item :: items))]).isSome = true
      rw [List.lookup_cons_self]
      rfl

/-- No collection of tags has the name of a section. -/
theorem lookup_table {key : Text} (other : key ∉ TagTable.names) (table : TagTable) :
    table.fields.lookup key = none := by
  apply List.lookup_eq_none_iff.mpr
  intro member listed
  have named : member.1 ∈ TagTable.names := table.names_fields.mem (List.mem_map_of_mem listed)
  exact bne_iff_ne.mpr fun same => other (same ▸ named)

theorem lookup_abstract (m : Documentation) :
    (m.fields.lookup "abstract".toList).isSome = hasEntries m.abstract := by
  have apart : "abstract".toList ≠ "discussion".toList := by decide
  rw [m.fields_eq, m.sectionFields_eq, List.lookup_append, List.lookup_append, lookup_table (by decide),
    lookup_arrayMember_of_ne apart, Option.or_none, Option.or_none, isSome_lookup_arrayMember,
    List.isEmpty_map]
  rfl

theorem lookup_discussion (m : Documentation) :
    (m.fields.lookup "discussion".toList).isSome = hasEntries m.discussion := by
  have apart : "discussion".toList ≠ "abstract".toList := by decide
  rw [m.fields_eq, m.sectionFields_eq, List.lookup_append, List.lookup_append, lookup_table (by decide),
    lookup_arrayMember_of_ne apart, Option.none_or, Option.or_none, isSome_lookup_arrayMember,
    List.isEmpty_map]
  rfl

/-- What one more model does to each number of a tally. -/
theorem add_fields (tally : Tally) (m : Documentation) :
    tally.add m.fields = .ok
      { files := tally.files + 1
        withAbstract := tally.withAbstract + if hasEntries m.abstract then 1 else 0
        withDiscussion := tally.withDiscussion + if hasEntries m.discussion then 1 else 0
        counts := m.shares.foldl addShare tally.counts } := by
  rw [add, addMembers_fields, ← lookup_abstract, ← lookup_discussion]
  rfl

theorem counted_shares_iff (counts : List (Text × Nat)) (models : List Documentation) :
    Counted counts (models.flatMap Documentation.shares) ↔
      counts = (models.flatMap Documentation.filled).eraseDups.map fun group =>
        (group.key, total models group) := by
  rw [Counted, listed_shares, funext (totalOf_shares models)]

/-- One more model is tallied. -/
theorem Describes.add {tally : Tally} {models : List Documentation} (describes : tally.Describes models)
    (m : Documentation) :
    ∃ next, tally.add m.fields = .ok next ∧ next.Describes (models ++ [m]) := by
  refine ⟨_, tally.add_fields m, ?_, ?_, ?_, ?_⟩
  · rw [describes.files, List.length_append, List.length_singleton]
  · rw [describes.withAbstract, List.countP_append, List.countP_singleton]
  · rw [describes.withDiscussion, List.countP_append, List.countP_singleton]
  · have counted := (counted_shares_iff _ _).mpr describes.counts
    apply (counted_shares_iff _ _).mp
    rw [List.flatMap_append, List.flatMap_singleton]
    exact counted.addAll m.shares

/-- All models are tallied, one after the other. -/
theorem Describes.addAll {tally : Tally} {models : List Documentation} (describes : tally.Describes models)
    (more : List Documentation) :
    ∃ last, tally.addAll (more.map Documentation.fields) = .ok last ∧ last.Describes (models ++ more) := by
  induction more generalizing tally models with
  | nil => exact ⟨tally, rfl, by rwa [List.append_nil]⟩
  | cons m more ih =>
      obtain ⟨next, added, nextDescribes⟩ := describes.add m
      obtain ⟨last, run, lastDescribes⟩ := ih nextDescribes
      rw [List.append_assoc, List.singleton_append] at lastDescribes
      refine ⟨last, ?_, lastDescribes⟩
      rw [List.map_cons, Tally.addAll, added]
      exact run

/-- Records always have a tally. -/
theorem exists_ofRecords (records : List Record) :
    ∃ tally, ofRecords records = .ok tally ∧ tally.Describes (records.map Record.documentation) := by
  have start : Tally.Describes {} [] := ⟨rfl, rfl, rfl, rfl⟩
  obtain ⟨tally, run, describes⟩ := start.addAll (records.map Record.documentation)
  rw [List.map_map] at run
  exact ⟨tally, run, describes⟩

/-! ## Numbers -/

def count (tally : Tally) (key : Text) : Nat := (tally.counts.lookup key).getD 0

/-- How many entries a model has under a key. -/
def entriesUnder (key : Text) (m : Documentation) : Nat :=
  ((TagGroup.all.find? fun group => group.key = key).map m.size).getD 0

theorem find?_key (group : TagGroup) :
    (TagGroup.all.find? fun other => other.key = group.key) = some group := by
  cases group <;> decide

section Lookup

variable {groups : List TagGroup} (sum : TagGroup → Nat)

theorem lookup_key {group : TagGroup} (present : group ∈ groups) :
    (groups.map fun g => (g.key, sum g)).lookup group.key = some (sum group) := by
  induction groups with
  | nil => cases present
  | cons first groups ih =>
      rw [List.map_cons, List.lookup_cons]
      by_cases same : group = first
      · rw [same, beq_self_eq_true]
      · rw [beq_false_of_ne fun equal => same (TagGroup.key_injective equal)]
        exact ih ((List.mem_cons.mp present).resolve_left same)

theorem lookup_other {key : Text} (absent : ∀ group ∈ groups, group.key ≠ key) :
    (groups.map fun g => (g.key, sum g)).lookup key = none := by
  apply List.lookup_eq_none_iff.mpr
  intro member listed
  obtain ⟨group, present, rfl⟩ := List.mem_map.mp listed
  exact bne_iff_ne.mpr (absent group present).symm

end Lookup

theorem mem_filled {m : Documentation} {group : TagGroup} : group ∈ m.filled ↔ m.size group ≠ 0 := by
  simp [Documentation.filled, TagGroup.mem_all]

theorem total_eq_zero {models : List Documentation} {group : TagGroup}
    (absent : group ∉ (models.flatMap Documentation.filled).eraseDups) : total models group = 0 := by
  apply List.sum_eq_zero
  intro n member
  obtain ⟨m, listed, rfl⟩ := List.mem_map.mp member
  by_contra filled
  exact absent (List.mem_eraseDups.mpr (List.mem_flatMap.mpr ⟨m, listed, mem_filled.mpr filled⟩))

/-- Every count is the sum of what the models have under its key, whether the key is listed or not. -/
theorem Describes.count_eq {tally : Tally} {models : List Documentation} (describes : tally.Describes models)
    (key : Text) : tally.count key = (models.map (entriesUnder key)).sum := by
  rw [count, describes.counts]
  by_cases named : ∃ group : TagGroup, group.key = key
  · obtain ⟨group, rfl⟩ := named
    have under : entriesUnder group.key = fun m => m.size group := by
      funext m
      rw [entriesUnder, find?_key]
      rfl
    rw [under]
    by_cases present : group ∈ (models.flatMap Documentation.filled).eraseDups
    · rw [lookup_key (total models) present]
      rfl
    · have absent : ∀ g ∈ (models.flatMap Documentation.filled).eraseDups, g.key ≠ group.key :=
        fun g listed same => present (TagGroup.key_injective same ▸ listed)
      rw [lookup_other (total models) absent]
      exact (total_eq_zero present).symm
  · have under : entriesUnder key = fun _ => 0 := by
      funext m
      rw [entriesUnder, List.find?_eq_none.mpr]
      · rfl
      · intro group _ same
        exact named ⟨group, by simpa using same⟩
    rw [lookup_other (total models) fun group _ same => named ⟨group, same⟩, under]
    simp

theorem Describes.mem_keys_iff {tally : Tally} {models : List Documentation}
    (describes : tally.Describes models) (key : Text) :
    key ∈ tally.counts.map Prod.fst ↔
      ∃ group : TagGroup, group.key = key ∧ ∃ m ∈ models, m.size group ≠ 0 := by
  rw [describes.counts, List.map_map, List.mem_map]
  simp only [List.mem_eraseDups, List.mem_flatMap, mem_filled]
  constructor
  · rintro ⟨group, filled, rfl⟩
    exact ⟨group, rfl, filled⟩
  · rintro ⟨group, rfl, filled⟩
    exact ⟨group, filled, rfl⟩

theorem total_httpBody (models : List Documentation) :
    total models .httpBody = models.countP fun m => m.table.httpBody.isSome := by
  induction models with
  | nil => rfl
  | cons m models ih =>
      have one : m.size .httpBody = if m.table.httpBody.isSome then 1 else 0 := by
        show m.table.httpBody.toList.length = _
        cases m.table.httpBody <;> rfl
      rw [total, List.map_cons, List.sum_cons, ← total, ih, one, List.countP_cons, Nat.add_comm]

/-- The numbers of a tally are the sums of the numbers of two others. -/
structure IsSum (both first second : Tally) : Prop where
  files : both.files = first.files + second.files
  withAbstract : both.withAbstract = first.withAbstract + second.withAbstract
  withDiscussion : both.withDiscussion = first.withDiscussion + second.withDiscussion
  count : ∀ key, both.count key = first.count key + second.count key

/-- Two tallies agree in all numbers; their counts may be listed in another order. -/
structure SameNumbers (tally other : Tally) : Prop where
  files : tally.files = other.files
  withAbstract : tally.withAbstract = other.withAbstract
  withDiscussion : tally.withDiscussion = other.withDiscussion
  count : ∀ key, tally.count key = other.count key

theorem Describes.isSum {first second both : Tally} {xs ys : List Documentation}
    (left : first.Describes xs) (right : second.Describes ys) (whole : both.Describes (xs ++ ys)) :
    both.IsSum first second where
  files := by rw [left.files, right.files, whole.files, List.length_append]
  withAbstract := by rw [left.withAbstract, right.withAbstract, whole.withAbstract, List.countP_append]
  withDiscussion := by
    rw [left.withDiscussion, right.withDiscussion, whole.withDiscussion, List.countP_append]
  count key := by
    rw [left.count_eq, right.count_eq, whole.count_eq, List.map_append, List.sum_append]

theorem Describes.sameNumbers {tally other : Tally} {xs ys : List Documentation}
    (left : tally.Describes xs) (right : other.Describes ys) (reordered : xs.Perm ys) :
    tally.SameNumbers other where
  files := by rw [left.files, right.files, reordered.length_eq]
  withAbstract := by rw [left.withAbstract, right.withAbstract, reordered.countP_eq]
  withDiscussion := by rw [left.withDiscussion, right.withDiscussion, reordered.countP_eq]
  count key := by rw [left.count_eq, right.count_eq, (reordered.map _).sum_eq]

/-- **A tally matches its models, and its numbers add up.** Records always have a tally, which lists the
collections that are not empty in some model, in the order in which they are met, with the number of their
entries; a body counts once for each model that has one. The numbers for a list of records are the sums of
those for its parts, and they do not depend on the order of the records. -/
theorem ofRecords_describes (xs ys : List Record) :
    ∃ first second both : Tally,
      ofRecords xs = .ok first ∧ ofRecords ys = .ok second ∧ ofRecords (xs ++ ys) = .ok both ∧
      both.IsSum first second ∧
      first.Describes (xs.map Record.documentation) ∧
      (∀ key, key ∈ first.counts.map Prod.fst ↔
        ∃ group : TagGroup, group.key = key ∧ ∃ r ∈ xs, r.documentation.size group ≠ 0) ∧
      (total (xs.map Record.documentation) .httpBody =
        xs.countP fun r => r.documentation.table.httpBody.isSome) ∧
      ∀ zs : List Record, zs.Perm xs → ∃ other, ofRecords zs = .ok other ∧ other.SameNumbers first := by
  obtain ⟨first, tallied, describes⟩ := exists_ofRecords xs
  obtain ⟨second, talliedToo, describesToo⟩ := exists_ofRecords ys
  obtain ⟨both, talliedBoth, describesBoth⟩ := exists_ofRecords (xs ++ ys)
  rw [List.map_append] at describesBoth
  refine ⟨first, second, both, tallied, talliedToo, talliedBoth,
    describes.isSum describesToo describesBoth, describes, ?_, ?_, ?_⟩
  · intro key
    rw [describes.mem_keys_iff]
    simp only [List.mem_map, exists_exists_and_eq_and]
  · rw [total_httpBody, List.countP_map]
    rfl
  · intro zs reordered
    obtain ⟨other, talliedOther, describesOther⟩ := exists_ofRecords zs
    exact ⟨other, talliedOther, describesOther.sameNumbers describes (reordered.map _)⟩

/-- A comment with two parameters and a body. -/
def bodyRecord : Record :=
  { source := "a.md".toList
    documentation :=
      { abstract := some [['A']]
        tags := some { parameters := [{ name := ['x'] }, { name := ['y'] }], httpBody := some {} } } }

/-- A comment with an empty abstract, a result and a parameter. -/
def resultRecord : Record :=
  { source := "b.md".toList
    documentation :=
      { abstract := some [], discussion := some [['D']]
        tags := some { parameters := [{ name := ['z'] }], returns := [[['R']]] } } }

/-- Counts add up over batches, and the order of the records does not matter. -/
theorem ofRecords_describes_mixedRecords :
    ∃ first second both other : Tally,
      ofRecords [bodyRecord, resultRecord] = .ok first ∧ ofRecords [resultRecord] = .ok second ∧
      ofRecords [bodyRecord, resultRecord, resultRecord] = .ok both ∧
      ofRecords [resultRecord, bodyRecord] = .ok other ∧
      [resultRecord, bodyRecord].Perm [bodyRecord, resultRecord] ∧
      first = { files := 2, withAbstract := 1, withDiscussion := 1
                counts := [("parameters".toList, 3), ("httpBody".toList, 1), ("returns".toList, 1)] } ∧
      other.counts = [("parameters".toList, 3), ("returns".toList, 1), ("httpBody".toList, 1)] ∧
      both.IsSum first second ∧ other.SameNumbers first := by
  have swap : [resultRecord, bodyRecord].Perm [bodyRecord, resultRecord] := List.Perm.swap ..
  obtain ⟨first, second, both, tallied, talliedToo, talliedBoth, sum, -, -, -, reordered⟩ :=
    ofRecords_describes [bodyRecord, resultRecord] [resultRecord]
  obtain ⟨other, talliedOther, same⟩ := reordered _ swap
  refine ⟨first, second, both, other, tallied, talliedToo, talliedBoth, talliedOther, swap, ?_, ?_, sum, same⟩
  · cases tallied
    rfl
  · cases talliedOther
    rfl

end Tally

end DocComment
