/- What a search through a directory lists. A file is listed if the way down to it passes only directories
that can be read and no name that is left out, and if its own name has one of the endings that are looked
for (`Scan.Listed`). Each directory is visited in the order of its names, and what is found below a name
comes where that name stands, so the ways are listed in the lexicographic order of their names
(`Scan.pairwise_files`). This is not the order of the paths as texts: `a/b.md` comes before `a.md`, although
a point is less than a slash. -/
import DocComment.Files.Scan
import DocComment.Proofs.Lines
import Mathlib.Data.List.Lex
import Mathlib.Data.List.Sort

namespace DocComment

set_option autoImplicit false

/-! ## Trees and ways -/

namespace FileTree

/-- A name that an entry of a directory can have. -/
def IsName (name : Text) : Prop := Path.isPart name = true ∧ name ≠ parent ∧ '/' ∉ name

instance (name : Text) : Decidable (IsName name) := inferInstanceAs (Decidable (_ ∧ _))

/-- A tree as a file system has it: no two entries of a directory have the same name. -/
inductive Proper : FileTree → Prop
  | file (bytes : List Nat) : Proper (.file bytes)
  | directory (readable : Bool) {entries : List (Text × FileTree)}
      (unique : (entries.map Prod.fst).Nodup) (named : ∀ entry ∈ entries, IsName entry.1)
      (inside : ∀ entry ∈ entries, Proper entry.2) : Proper (.directory readable entries)

def at? : FileTree → List Text → Option FileTree
  | tree, [] => some tree
  | .file _, _ :: _ => none
  | .directory _ entries, name :: way => (entries.lookup name).bind fun entry => at? entry way

@[simp]
theorem at?_nil (tree : FileTree) : tree.at? [] = some tree := by cases tree <;> rfl

/-- A way that never goes up is followed down. -/
theorem follow_eq_at? {way : List Text} (down : parent ∉ way) (above : List FileTree)
    (tree : FileTree) : follow above tree way = tree.at? way := by
  induction way generalizing above tree with
  | nil => cases tree <;> rfl
  | cons name way ih =>
      simp only [List.mem_cons, not_or] at down
      cases tree with
      | file bytes => rfl
      | directory readable entries =>
          simp only [follow, at?, if_neg (Ne.symm down.1)]
          cases entries.lookup name with
          | none => rfl
          | some entry => exact ih down.2 _ entry

/-- As no name occurs twice, the entry that is found first is the only one. -/
theorem lookup_eq_some_iff {entries : List (Text × FileTree)}
    (unique : (entries.map Prod.fst).Nodup) (name : Text) (entry : FileTree) :
    entries.lookup name = some entry ↔ (name, entry) ∈ entries := by
  constructor
  · intro found
    obtain ⟨before, after, rfl, -⟩ := List.lookup_eq_some_iff.mp found
    simp
  · intro member
    obtain ⟨before, after, rfl⟩ := List.append_of_mem member
    rw [List.lookup_eq_some_iff]
    refine ⟨before, after, rfl, ?_⟩
    intro other earlier
    simp only [List.map_append, List.map_cons, List.nodup_append, List.mem_map] at unique
    simp only [bne_iff_ne]
    intro same
    exact unique.2.2 _ ⟨other, earlier, rfl⟩ name (List.mem_cons_self ..) same.symm

/-- Ways that lead somewhere in a proper tree consist of names. -/
theorem Proper.isName_of_at? {tree : FileTree} (proper : tree.Proper) {way : List Text}
    {target : FileTree} (found : tree.at? way = some target) : ∀ name ∈ way, IsName name := by
  induction proper generalizing way with
  | file bytes =>
      cases way with
      | nil => simp
      | cons name way => cases found
  | directory readable unique named inside ih =>
      cases way with
      | nil => simp
      | cons name way =>
          simp only [at?, Option.bind_eq_some_iff] at found
          obtain ⟨entry, here, found⟩ := found
          have member := (lookup_eq_some_iff unique name entry).mp here
          intro other
          rw [List.mem_cons]
          rintro (rfl | later)
          · exact named _ member
          · exact ih _ member found other later

end FileTree

/-! ## Paths and ways -/

namespace Path

open FileTree (IsName)

theorem rootOf_cons {c : Char} (other : c ≠ '/') (t : Text) : rootOf (c :: t) = [] := by
  unfold rootOf
  split <;> simp_all

/-- A path of names is read as those names. -/
theorem ofText_join {way : List Text} (names : ∀ name ∈ way, IsName name) :
    ofText (join way) = { parts := way } := by
  cases way with
  | nil => rfl
  | cons first way =>
      have parts : Text.splitOn '/' (join (first :: way)) = first :: way := by
        apply Text.splitOn_joinWith (by simp)
        intro name member
        exact (names name member).2.2
      have kept : (first :: way).filter isPart = first :: way := by
        rw [List.filter_eq_self]
        intro name member
        exact (names name member).1
      have head := names first (List.mem_cons_self ..)
      have noRoot : rootOf (join (first :: way)) = [] := by
        cases first with
        | nil => exact absurd head.1 (by decide)
        | cons c rest =>
            have other : c ≠ '/' := by
              rintro rfl
              exact head.2.2 (List.mem_cons_self ..)
            cases way with
            | nil => exact rootOf_cons other rest
            | cons next way => exact rootOf_cons other _
      rw [ofText, parts, kept, noRoot]

end Path

theorem FileTree.Proper.find?_join {tree : FileTree} (proper : tree.Proper) {way : List Text}
    {target : FileTree} (found : tree.at? way = some target) :
    tree.find? (.ofText (Path.join way)) = some target := by
  have names := proper.isName_of_at? found
  rw [Path.ofText_join names]
  show FileTree.follow [] tree way = _
  rw [FileTree.follow_eq_at?, found]
  intro up
  exact (names _ up).2.1 rfl

/-! ## The order of a directory -/

namespace Scan

section

variable {α β : Type}

/-- Whether one named value may come before another. -/
def Before (a b : Text × α) : Prop := ¬ b.1 < a.1

instance : DecidableRel (Before (α := α)) := fun _ _ => inferInstanceAs (Decidable (¬ _))

instance : Std.Total (Before (α := α)) := ⟨fun _ _ => List.le_total _ _⟩

instance : IsTrans (Text × α) Before := ⟨fun _ _ _ => List.le_trans⟩

/-- The sort of the program is the insertion sort of the library, so the lemmas about that one apply. -/
theorem sort_eq (entries : List (Text × α)) : sort entries = entries.insertionSort Before := by
  have insert_eq (name : Text) (value : α) (rest : List (Text × α)) :
      insert name value rest = rest.orderedInsert Before (name, value) := by
    induction rest with
    | nil => rfl
    | cons entry rest ih =>
        rw [insert, List.orderedInsert_cons, ih]
        by_cases later : entry.1 < name
        · have after : ¬ Before (name, value) entry := not_not_intro later
          rw [if_pos later, if_neg after]
        · have first : Before (name, value) entry := later
          rw [if_neg later, if_pos first]
  induction entries with
  | nil => rfl
  | cons entry entries ih => rw [sort, insert_eq, ih, List.insertionSort_cons]

theorem sort_perm (entries : List (Text × α)) : (sort entries).Perm entries := by
  rw [sort_eq]
  exact List.perm_insertionSort Before entries

/-- Different names are put in strictly increasing order. -/
theorem pairwise_sort {entries : List (Text × α)} (unique : (entries.map Prod.fst).Nodup) :
    (sort entries).Pairwise fun a b => a.1 < b.1 := by
  have ordered : (sort entries).Pairwise Before := by
    rw [sort_eq]
    exact List.pairwise_insertionSort Before entries
  have distinct : (sort entries).Pairwise fun a b => a.1 ≠ b.1 := by
    rw [← List.pairwise_map]
    exact (((sort_perm entries).map Prod.fst).nodup_iff).mpr unique
  apply ordered.imp₂ _ distinct
  intro a b before other
  by_cases less : a.1 < b.1
  · exact less
  · exact absurd (List.le_antisymm before less) other

/-- Only the names count for the order. -/
theorem sort_map (f : Text × α → β) (entries : List (Text × α)) :
    sort (entries.map fun entry => (entry.1, f entry)) =
      (sort entries).map fun entry => (entry.1, f entry) := by
  rw [sort_eq, sort_eq, List.map_insertionSort Before Before]
  intro a _ b _
  rfl

end

end Scan

/-! ## What is found -/

def Visit.files (visits : List Visit) : List (List Text × List Nat) :=
  visits.filterMap fun
    | .file way bytes => some (way, bytes)
    | .unreadable _ => none

theorem Visit.filePaths_eq (visits : List Visit) :
    filePaths visits = (files visits).map fun file => Path.join file.1 := by
  rw [filePaths, files, List.map_filterMap]
  apply List.filterMap_congr
  intro visit _
  cases visit <;> rfl

namespace Scan

theorem entryVisits_eq (options : ScanOptions) (way : List Text)
    (entries : List (Text × FileTree)) :
    entryVisits options way entries = entries.map fun entry =>
      (entry.1, if options.hides entry.1 then [] else visits options (way ++ [entry.1]) entry.2) := by
  induction entries with
  | nil => rfl
  | cons entry entries ih => rw [entryVisits, ih, List.map_cons]

/-- The files of a directory are met entry by entry in the order of the names. -/
theorem files_directory (options : ScanOptions) (way : List Text)
    (entries : List (Text × FileTree)) :
    Visit.files (visits options way (.directory true entries)) = (sort entries).flatMap fun entry =>
      if options.hides entry.1 then []
      else Visit.files (visits options (way ++ [entry.1]) entry.2) := by
  rw [visits, if_pos rfl, entryVisits_eq, sort_map, List.flatMap_map, Visit.files,
    List.filterMap_flatMap]
  apply List.flatMap_congr
  intro entry _
  split <;> rfl

/-- The file that a search finds at the end of a way. It enters no directory that cannot be read, and
passes no name that is left out. -/
def found? (options : ScanOptions) : FileTree → List Text → Option (List Nat)
  | .file bytes, [] => some bytes
  | .directory _ _, [] => none
  | .file _, _ :: _ => none
  | .directory readable entries, name :: way =>
    if readable && !options.hides name then
      (entries.lookup name).bind fun entry => found? options entry way
    else none

/-- What the search meets at the end of a way is what it finds there. The induction is on the tree; the way
so far is part of the statement, since a file is judged by the last name on it. -/
theorem mem_files (options : ScanOptions) {tree : FileTree} (proper : tree.Proper)
    (base way : List Text) (bytes : List Nat) :
    (way, bytes) ∈ Visit.files (visits options base tree) ↔
      ∃ rest, way = base ++ rest ∧ found? options tree rest = some bytes ∧
        options.accepts (way.getLast?.getD []) = true := by
  induction proper generalizing base with
  | file content =>
      have here : ∀ rest, found? options (.file content) rest = some bytes ↔
          rest = [] ∧ content = bytes := by
        intro rest
        cases rest <;> simp [found?]
      by_cases accepted : options.accepts (base.getLast?.getD []) = true
      · simp only [visits, if_pos accepted, Visit.files, List.filterMap_cons, List.filterMap_nil,
          List.mem_singleton, Prod.mk.injEq, here]
        constructor
        · rintro ⟨rfl, rfl⟩
          exact ⟨[], by simp, ⟨rfl, rfl⟩, accepted⟩
        · rintro ⟨rest, rfl, ⟨rfl, rfl⟩, -⟩
          simp
      · simp only [visits, if_neg accepted, Visit.files, List.filterMap_nil, List.not_mem_nil,
          false_iff, here]
        rintro ⟨rest, rfl, ⟨rfl, -⟩, judged⟩
        exact accepted (by simpa using judged)
  | @directory readable entries unique named inside ih =>
      cases readable with
      | false =>
          -- Such a directory is not entered.
          have never : ∀ rest, found? options (.directory false entries) rest = none := by
            intro rest
            cases rest <;> simp [found?]
          simp [visits, Visit.files, never]
      | true =>
          have split : (way, bytes) ∈ Visit.files (visits options base (.directory true entries)) ↔
              ∃ entry ∈ entries, options.hides entry.1 = false ∧
                (way, bytes) ∈ Visit.files (visits options (base ++ [entry.1]) entry.2) := by
            rw [files_directory, List.mem_flatMap]
            apply exists_congr
            intro entry
            rw [(sort_perm entries).mem_iff]
            cases options.hides entry.1 <;> simp
          rw [split]
          constructor
          · rintro ⟨⟨name, entry⟩, member, shown, met⟩
            obtain ⟨rest, rfl, reached, accepted⟩ := (ih _ member _).mp met
            refine ⟨name :: rest, by simp, ?_, accepted⟩
            have here := (FileTree.lookup_eq_some_iff unique name entry).mpr member
            simpa [found?, shown, here] using reached
          · rintro ⟨rest, rfl, reached, accepted⟩
            cases rest with
            | nil => simp [found?] at reached
            | cons name rest =>
                cases hidden : options.hides name with
                | true => simp [found?, hidden] at reached
                | false =>
                    simp only [found?, hidden, Bool.not_false, Bool.and_self, if_true,
                      Option.bind_eq_some_iff] at reached
                    obtain ⟨entry, here, reached⟩ := reached
                    have member := (FileTree.lookup_eq_some_iff unique name entry).mp here
                    refine ⟨(name, entry), member, hidden, (ih _ member _).mpr ?_⟩
                    exact ⟨rest, by simp, reached, accepted⟩

/-- Files are met in the lexicographic order of their ways. -/
theorem pairwise_files (options : ScanOptions) {tree : FileTree} (proper : tree.Proper)
    (base : List Text) :
    (Visit.files (visits options base tree)).Pairwise fun a b => a.1 < b.1 := by
  induction proper generalizing base with
  | file content =>
      simp only [visits, Visit.files]
      split <;> simp
  | @directory readable entries unique named inside ih =>
      cases readable with
      | false => simp [visits, Visit.files]
      | true =>
          rw [files_directory, List.pairwise_flatMap]
          constructor
          · intro entry member
            split
            · simp
            · exact ih entry ((sort_perm entries).mem_iff.mp member) _
          · -- The ways below two names part at these names.
            have under : ∀ entry ∈ sort entries, ∀ file ∈ (if options.hides entry.1 then []
                else Visit.files (visits options (base ++ [entry.1]) entry.2)),
                ∃ rest, file.1 = base ++ entry.1 :: rest := by
              intro entry member file met
              split at met
              · cases met
              · have proper := inside entry ((sort_perm entries).mem_iff.mp member)
                obtain ⟨rest, way, -⟩ := (mem_files options proper _ _ _).mp met
                exact ⟨rest, by simpa using way⟩
            apply (pairwise_sort unique).imp_of_mem
            intro a b here there less x below y beyond
            obtain ⟨rest, way⟩ := under a here x below
            obtain ⟨other, next⟩ := under b there y beyond
            rw [way, next]
            apply List.append_left_lt
            exact List.cons_lt_cons_iff.mpr (.inl less)

/-! ## What is listed -/

/-- Every directory on a way can be read, the one where it begins included. -/
def OpenAlong (tree : FileTree) (way : List Text) : Prop :=
  ∀ above, above <+: way → above ≠ way → ∃ entries, tree.at? above = some (.directory true entries)

theorem openAlong_nil (tree : FileTree) : OpenAlong tree [] := by
  intro above start other
  exact absurd (List.prefix_nil.mp start) other

/-- The directories on a way are the first one and those on the way from its entry on. -/
theorem openAlong_cons {readable : Bool} {entries : List (Text × FileTree)} {name : Text}
    {entry : FileTree} (here : entries.lookup name = some entry) (way : List Text) :
    OpenAlong (.directory readable entries) (name :: way) ↔
      readable = true ∧ OpenAlong entry way := by
  constructor
  · intro all
    constructor
    · obtain ⟨inner, same⟩ := all [] List.nil_prefix (by simp)
      simp only [FileTree.at?, Option.some.injEq, FileTree.directory.injEq] at same
      exact same.1
    · intro above start other
      simpa [FileTree.at?, here] using
        all (name :: above) (by simpa using start) (by simpa using other)
  · rintro ⟨rfl, all⟩ above start other
    cases above with
    | nil => exact ⟨entries, by simp⟩
    | cons first above =>
        obtain ⟨rfl, below⟩ := List.cons_prefix_cons.mp start
        simpa [FileTree.at?, here] using all above below (by simpa using other)

/-- By induction on the way: a search enters a directory only if it can be read and its name is not left
out. -/
theorem found?_eq_some_iff (options : ScanOptions) (tree : FileTree) (way : List Text)
    (bytes : List Nat) :
    found? options tree way = some bytes ↔
      tree.at? way = some (.file bytes) ∧ OpenAlong tree way ∧
        ∀ name ∈ way, options.hides name = false := by
  induction way generalizing tree with
  | nil => cases tree <;> simp [found?, openAlong_nil]
  | cons name way ih =>
      cases tree with
      | file content => simp [found?, FileTree.at?]
      | directory readable entries =>
          cases here : entries.lookup name with
          | none => simp [found?, FileTree.at?, here]
          | some entry =>
              simp only [found?, FileTree.at?, here, Option.bind_some, List.forall_mem_cons,
                openAlong_cons here]
              by_cases passes : readable = true ∧ options.hides name = false
              · simp [passes.1, passes.2, ih]
              · have blocked : (readable && !options.hides name) = false := by
                  simpa using passes
                simp only [blocked, Bool.false_eq_true, if_false, reduceCtorEq, false_iff]
                rintro ⟨-, ⟨canRead, -⟩, shown, -⟩
                exact passes ⟨canRead, shown⟩

/-- A file that is listed under a way. -/
structure Listed (options : ScanOptions) (tree : FileTree) (way : List Text) : Prop where
  isFile : ∃ bytes, tree.at? way = some (.file bytes)
  readable : OpenAlong tree way
  visible : options.skipHidden = true → ∀ name ∈ way, name.head? ≠ some '.'
  supported : ∃ ext ∈ options.extensions,
    Text.lower (Text.trim ext) = Text.lower (Path.suffix (way.getLast?.getD []))

/-- Only names with a leading dot are hidden, and only if that is asked for. -/
theorem hides_eq_false_iff (options : ScanOptions) (way : List Text) :
    (∀ name ∈ way, options.hides name = false) ↔
      (options.skipHidden = true → ∀ name ∈ way, name.head? ≠ some '.') := by
  have starts : ∀ name : Text, Text.startsWith name ['.'] = true ↔ name.head? = some '.' := by
    intro name
    cases name with
    | nil => simp [Text.startsWith, Text.after?]
    | cons c rest =>
        by_cases dot : c = '.' <;> simp [Text.startsWith, Text.after?, dot, eq_comm]
  cases skip : options.skipHidden with
  | false => simp [ScanOptions.hides, skip]
  | true => simp [ScanOptions.hides, skip, ← starts]

theorem accepts_iff (options : ScanOptions) (name : Text) :
    options.accepts name = true ↔
      ∃ ext ∈ options.extensions, Text.lower (Text.trim ext) = Text.lower (Path.suffix name) := by
  simp [ScanOptions.accepts, ScanOptions.normalExtensions]

/-- A file is met if it is listed, and with the bytes that it has. -/
theorem mem_files_iff (options : ScanOptions) {tree : FileTree} (proper : tree.Proper)
    (way : List Text) (bytes : List Nat) :
    (way, bytes) ∈ Visit.files (visits options [] tree) ↔
      Listed options tree way ∧ tree.at? way = some (.file bytes) := by
  simp only [mem_files options proper, List.nil_append, exists_eq_left', found?_eq_some_iff,
    hides_eq_false_iff, accepts_iff]
  constructor
  · rintro ⟨⟨here, readable, visible⟩, supported⟩
    exact ⟨⟨⟨bytes, here⟩, readable, visible, supported⟩, here⟩
  · rintro ⟨listed, here⟩
    exact ⟨⟨here, listed.readable, listed.visible⟩, listed.supported⟩

/-- The path of a listed file is read as the way to it. -/
theorem ofText_of_mem {options : ScanOptions} {tree : FileTree} (proper : tree.Proper)
    {file : List Text × List Nat} (met : file ∈ Visit.files (visits options [] tree)) :
    Path.ofText (Path.join file.1) = { parts := file.1 } := by
  have found := ((mem_files_iff options proper file.1 file.2).mp met).2
  exact Path.ofText_join (proper.isName_of_at? found)

/-- A path is listed exactly if some way to a file is spelled so. -/
theorem mem_filePaths_iff (options : ScanOptions) {tree : FileTree} (proper : tree.Proper)
    (path : Text) :
    path ∈ Visit.filePaths (visits options [] tree) ↔
      ∃ way, Path.join way = path ∧ Listed options tree way := by
  simp only [Visit.filePaths_eq, List.mem_map, Prod.exists, mem_files_iff options proper]
  constructor
  · rintro ⟨way, bytes, ⟨listed, -⟩, rfl⟩
    exact ⟨way, rfl, listed⟩
  · rintro ⟨way, rfl, listed⟩
    obtain ⟨bytes, here⟩ := listed.isFile
    exact ⟨way, bytes, ⟨listed, here⟩, rfl⟩

theorem pairwise_filePaths (options : ScanOptions) {tree : FileTree} (proper : tree.Proper) :
    (Visit.filePaths (visits options [] tree)).Pairwise fun a b =>
      (Path.ofText a).parts < (Path.ofText b).parts := by
  rw [Visit.filePaths_eq, List.pairwise_map]
  apply (pairwise_files options proper []).imp_of_mem
  intro a b here there less
  rw [ofText_of_mem proper here, ofText_of_mem proper there]
  exact less

theorem nodup_filePaths (options : ScanOptions) {tree : FileTree} (proper : tree.Proper) :
    (Visit.filePaths (visits options [] tree)).Nodup := by
  apply (pairwise_filePaths options proper).imp
  rintro path _ less rfl
  exact List.lt_irrefl _ less

end Scan

def FileTree.IsDirectory (tree : FileTree) : Prop :=
  ∃ readable entries, tree = .directory readable entries

theorem FileTree.IsDirectory.scan_eq {tree : FileTree} (isDirectory : tree.IsDirectory)
    (options : ScanOptions) (root : Text) :
    scan options root (some tree) = .ok (Scan.visits options [] tree) := by
  obtain ⟨readable, entries, rfl⟩ := isDirectory
  rfl

/-- A search of a directory lists each file that is to be listed once, in the order of the names along the
ways. -/
theorem scan_lists (options : ScanOptions) (root : Text) {tree : FileTree}
    (isDirectory : tree.IsDirectory) (proper : tree.Proper) :
    ∃ visits, scan options root (some tree) = .ok visits ∧
      (∀ path, path ∈ Visit.filePaths visits ↔
        ∃ way, Path.join way = path ∧ Scan.Listed options tree way) ∧
      ((Visit.filePaths visits).Pairwise fun a b =>
        (Path.ofText a).parts < (Path.ofText b).parts) ∧
      (Visit.filePaths visits).Nodup :=
  ⟨_, isDirectory.scan_eq options root, Scan.mem_filePaths_iff options proper,
    Scan.pairwise_filePaths options proper, Scan.nodup_filePaths options proper⟩

/-- A directory with a file and a directory of nearly the same name, a hidden file, a file of another kind
and a directory that cannot be read. -/
def docsTree : FileTree :=
  .directory true [
    ("a.md".toList, .file [65]),
    ("a".toList, .directory true [
      ("z.MD".toList, .file [66]), ("closed".toList, .directory false [("b.md".toList, .file [])])]),
    (".c.md".toList, .file []),
    ("d.png".toList, .file [])]

theorem proper_docsTree : docsTree.Proper := by
  have inner : (FileTree.directory true [
      ("z.MD".toList, .file [66]),
      ("closed".toList, .directory false [("b.md".toList, .file [])])]).Proper := by
    refine .directory true (by decide) (by decide) ?_
    simp only [List.forall_mem_cons, List.not_mem_nil, false_implies, implies_true, and_true]
    refine ⟨.file _, .directory false (by decide) (by decide) ?_⟩
    simpa using FileTree.Proper.file []
  refine .directory true (by decide) (by decide) ?_
  simp only [List.forall_mem_cons, List.not_mem_nil, false_implies, implies_true, and_true]
  exact ⟨.file _, inner, .file _, .file _⟩

theorem scan_lists_docsTree :
    docsTree.IsDirectory ∧ docsTree.Proper ∧
      ∃ visits, scan {} "docs".toList (some docsTree) = .ok visits ∧
        Visit.filePaths visits = ["a/z.MD".toList, "a.md".toList] ∧
        (Visit.filePaths visits).Nodup := by
  have isDirectory : docsTree.IsDirectory := ⟨true, _, rfl⟩
  obtain ⟨visits, found, -, -, distinct⟩ :=
    scan_lists {} "docs".toList isDirectory proper_docsTree
  refine ⟨isDirectory, proper_docsTree, visits, found, ?_, distinct⟩
  obtain rfl : Scan.visits {} [] docsTree = visits := Except.ok.inj found
  decide +kernel

end DocComment
