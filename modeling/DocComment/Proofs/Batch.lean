/- What comes of the files of a directory. Each file that is listed makes one record or one failure: a record
if its bytes are UTF-8, under its path, with the comment that its text stands for. So the records are found
by looking up each listed path in the tree (`Processor.directory_eq`), and what one file holds has no
influence on the records of the others. -/
import DocComment.Processor
import DocComment.Proofs.Decoding
import DocComment.Proofs.Listing

namespace DocComment

set_option autoImplicit false

/-! ## Texts of files -/

/-- The text of the file at a path, if there is a file that can be read. -/
def FileTree.text? (tree : FileTree) (path : Text) : Option Text :=
  (readText (tree.find? (.ofText path))).toOption

/-- A file can be read exactly if its bytes encode a text; decoding then changes nothing but line ends. -/
theorem decodeText_eq_ok_iff (bytes : List Nat) (text : Text) :
    decodeText bytes = .ok text ↔
      ∃ decoded, bytes = Utf8.encode decoded ∧ text = Text.plainNewlines decoded := by
  cases read : Utf8.decode bytes with
  | error fault =>
      simp only [decodeText, read, Except.map, reduceCtorEq, false_iff]
      rintro ⟨decoded, encodes, -⟩
      rw [(Utf8.decode_eq_ok_iff bytes decoded).mpr encodes] at read
      cases read
  | ok decoded =>
      simp only [decodeText, read, Except.map, Except.ok.injEq]
      constructor
      · rintro rfl
        exact ⟨decoded, (Utf8.decode_eq_ok_iff bytes decoded).mp read, rfl⟩
      · rintro ⟨other, encodes, rfl⟩
        rw [(Utf8.decode_eq_ok_iff bytes other).mpr encodes] at read
        rw [Except.ok.inj read]

theorem readText_toOption_file (bytes : List Nat) :
    (readText (some (.file bytes))).toOption = (decodeText bytes).toOption := by
  cases read : decodeText bytes <;> simp [readText, read, Except.mapError, Except.toOption]

/-- A file has a text if its bytes are UTF-8. -/
theorem FileTree.text?_eq_some_iff (tree : FileTree) (path text : Text) :
    tree.text? path = some text ↔
      ∃ decoded, tree.find? (.ofText path) = some (.file (Utf8.encode decoded)) ∧
        text = Text.plainNewlines decoded := by
  unfold text?
  cases tree.find? (.ofText path) with
  | none => simp [readText, Except.toOption]
  | some found =>
      cases found with
      | directory readable entries => simp [readText, Except.toOption]
      | file bytes =>
          have decodes : (decodeText bytes).toOption = some text ↔ decodeText bytes = .ok text := by
            cases decodeText bytes <;> simp [Except.toOption]
          rw [readText_toOption_file, decodes, decodeText_eq_ok_iff]
          simp

theorem FileTree.Proper.text?_join {tree : FileTree} (proper : tree.Proper) {way : List Text}
    {bytes : List Nat} (found : tree.at? way = some (.file bytes)) :
    tree.text? (Path.join way) = (decodeText bytes).toOption := by
  rw [text?, proper.find?_join found, readText_toOption_file]

/-! ## Records -/

namespace Processor

def recordAt? (p : Processor) (tree : FileTree) (path : Text) : Option Record :=
  (tree.text? path).bind fun text => (p.content text path).result.toOption

/-- Whether comments can be taken from all files that are listed. -/
def Extracts (p : Processor) (tree : FileTree) : Prop :=
  ∀ way text, Scan.Listed p.scan tree way → tree.text? (Path.join way) = some text →
    ∃ record, (p.content text (Path.join way)).result = .ok record

/-- Both ways from a text to its markup agree. A text that is given is read as a comment or as markup; from
the text of a file the markup is taken first, and then it is read. -/
theorem content_eq (p : Processor) (text name : Text) :
    p.content text name =
      ⟨.content name :: (p.model (p.markup text)).notices,
        (p.model (p.markup text)).result.map fun documentation => ⟨name, documentation⟩⟩ := by
  unfold content markup
  cases p.stripComments <;> rfl

theorem source_of_content {p : Processor} {text path : Text} {record : Record}
    (made : (p.content text path).result = .ok record) : record.source = path := by
  rw [content_eq] at made
  cases model : (p.model (p.markup text)).result with
  | error fault => simp [model, Except.map] at made
  | ok documentation =>
      simp only [model, Except.map, Except.ok.injEq] at made
      rw [← made]

theorem recordAt?_eq_some_iff (p : Processor) (tree : FileTree) (path : Text) (record : Record) :
    p.recordAt? tree path = some record ↔
      ∃ text, tree.text? path = some text ∧ (p.content text path).result = .ok record := by
  rw [recordAt?, Option.bind_eq_some_iff]
  apply exists_congr
  intro text
  apply and_congr_right
  intro _
  cases (p.content text path).result <;> simp [Except.toOption]

section File

variable {p : Processor} {path : Path} {name : Text} {found : Option FileTree}

theorem file_of_fault {fault : FileFault} (read : readText found = .error fault) :
    p.file path name found = ⟨[.file path, .fileFailed path fault], .ok none⟩ := by
  have parsing : p.parseFile path found = ⟨[], .ok (.error fault)⟩ := by simp only [parseFile, read]
  simp only [file, parsing, List.nil_append]

/-- **A file is processed like the text in it.** What is reported differs in its first lines only. -/
theorem file_of_text {text : Text} (read : readText found = .ok text) :
    (p.file path name found).result = (p.content text name).result.map some ∧
      (p.file path name found).notices =
        .file path :: .parsing (p.markup text).length path :: (p.content text name).notices.tail := by
  rw [content_eq, model]
  simp only [file, parseFile, read]
  cases Markdown.read p.options (p.markup text) with
  | error fault => exact ⟨rfl, rfl⟩
  | ok document =>
      simp only [Except.map, modelOf, List.tail_cons, List.singleton_append, and_true]
      cases Documentation.ofDocument p.upTo document <;> rfl

end File

/-- Only a file that cannot be decoded is left out; any other fault is passed on. -/
theorem file_result (p : Processor) (path : Path) (name : Text) (bytes : List Nat) :
    (p.file path name (some (.file bytes))).result =
      match decodeText bytes with
      | .error _ => .ok none
      | .ok text => (p.content text name).result.map some := by
  have decoded : readText (some (.file bytes)) = (decodeText bytes).mapError .undecodable := rfl
  cases read : decodeText bytes with
  | error fault =>
      rw [read] at decoded
      rw [file_of_fault decoded]
  | ok text =>
      rw [read] at decoded
      exact (file_of_text decoded).1

def recordOf? (p : Processor) (file : List Text × List Nat) : Option Record :=
  (decodeText file.2).toOption.bind fun text => (p.content text (Path.join file.1)).result.toOption

/-- Files are processed one after the other; each adds its record, or counts as failed. -/
theorem batch_result (p : Processor) (root : Path) {visits : List Visit}
    (extracts : ∀ file ∈ Visit.files visits, ∀ text, decodeText file.2 = .ok text →
      ∃ record, (p.content text (Path.join file.1)).result = .ok record) :
    (p.batch root visits).result = .ok {
      records := (Visit.files visits).filterMap p.recordOf?
      failed := (Visit.files visits).countP fun file => (p.recordOf? file).isNone } := by
  induction visits with
  | nil => rfl
  | cons visit visits ih =>
      cases visit with
      | unreadable way => exact ih extracts
      | file way bytes =>
          have all : Visit.files (.file way bytes :: visits) = (way, bytes) :: Visit.files visits := rfl
          rw [all] at extracts ⊢
          rw [List.forall_mem_cons] at extracts
          have rest := ih extracts.2
          have one := p.file_result (root.append way) (Path.join way) bytes
          cases read : decodeText bytes with
          | error fault =>
              simp only [read] at one
              simp [batch, one, rest, recordOf?, read, Except.toOption, Except.map]
          | ok text =>
              obtain ⟨record, made⟩ := extracts.1 text read
              simp only [read, made, Except.map] at one
              simp [batch, one, rest, recordOf?, read, made, Except.toOption, Except.map]

/-! ## Directories -/

def paths (p : Processor) (tree : FileTree) : List Text :=
  Visit.filePaths (Scan.visits p.scan [] tree)

def records (p : Processor) (tree : FileTree) : List Record :=
  (p.paths tree).filterMap (p.recordAt? tree)

/-- The record of a file that is met is the one at its path. -/
theorem recordOf?_eq (p : Processor) {tree : FileTree} (proper : tree.Proper)
    {file : List Text × List Nat} (met : file ∈ Visit.files (Scan.visits p.scan [] tree)) :
    p.recordOf? file = p.recordAt? tree (Path.join file.1) := by
  have found := ((Scan.mem_files_iff p.scan proper file.1 file.2).mp met).2
  rw [recordOf?, recordAt?, proper.text?_join found]

/-- What the loop over the visits collects is what each listed file gives by itself: no file has a share in
the record of another. -/
theorem batch_visits (p : Processor) (root : Path) {tree : FileTree} (proper : tree.Proper)
    (extracts : p.Extracts tree) :
    (p.batch root (Scan.visits p.scan [] tree)).result = .ok {
      records := p.records tree
      failed := (p.paths tree).countP fun path => (p.recordAt? tree path).isNone } := by
  rw [batch_result p root]
  · simp only [records, paths, Visit.filePaths_eq, List.filterMap_map, List.countP_map]
    congr 2
    · apply List.filterMap_congr
      intro file met
      exact p.recordOf?_eq proper met
    · apply List.countP_congr
      intro file met
      simp [p.recordOf?_eq proper met]
  · intro file met text read
    obtain ⟨listed, found⟩ := (Scan.mem_files_iff p.scan proper file.1 file.2).mp met
    apply extracts file.1 text listed
    rw [proper.text?_join found, read]
    rfl

end Processor

/-! ## Trees that differ in one file -/

/-- Two trees that differ at most in the bytes of the file at the end of a way. -/
inductive FileTree.DiffersAt : List Text → FileTree → FileTree → Prop
  | file (old new : List Nat) : DiffersAt [] (.file old) (.file new)
  | entry (readable : Bool) (before after : List (Text × FileTree)) (name : Text) {way : List Text}
      {old new : FileTree} (inside : DiffersAt way old new) :
      DiffersAt (name :: way) (.directory readable (before ++ (name, old) :: after))
        (.directory readable (before ++ (name, new) :: after))

namespace FileTree.DiffersAt

variable {way : List Text} {old new : FileTree}

theorem symm (differs : DiffersAt way old new) : DiffersAt way new old := by
  induction differs with
  | file old new => exact .file new old
  | entry readable before after name inside ih => exact .entry readable before after name ih

theorem proper (differs : DiffersAt way old new) (proper : old.Proper) : new.Proper := by
  induction differs with
  | file old new => exact .file new
  | entry readable before after name inside ih =>
      cases proper with
      | directory readable unique named entries =>
          refine .directory readable (by simpa using unique) ?_ ?_
          · simp only [List.forall_mem_append, List.forall_mem_cons] at named ⊢
            exact named
          · simp only [List.forall_mem_append, List.forall_mem_cons] at entries ⊢
            exact ⟨entries.1, ih entries.2.1, entries.2.2⟩

theorem isDirectory (differs : DiffersAt way old new) (isDirectory : old.IsDirectory) :
    new.IsDirectory := by
  obtain ⟨readable, entries, rfl⟩ := isDirectory
  cases differs with
  | entry readable before after name inside => exact ⟨readable, _, rfl⟩

/-- What stands at the end of any way in one of the trees stands there in the other: a directory that can be
read or not, or a file, with the same bytes unless it is the one file. -/
theorem at?_eq (differs : DiffersAt way old new) (proper : old.Proper) (rest : List Text) :
    (∀ entries, old.at? rest = some (.directory true entries) →
      ∃ others, new.at? rest = some (.directory true others)) ∧
    (∀ bytes, old.at? rest = some (.file bytes) →
      ∃ others, new.at? rest = some (.file others) ∧ (rest ≠ way → others = bytes)) := by
  induction differs generalizing rest with
  | file old new => cases rest <;> simp [at?]
  | @entry readable before after name way old new inside ih =>
      cases rest with
      | nil => simp [at?]
      | cons part rest =>
          cases proper with
          | directory readable unique named entries =>
              by_cases same : part = name
              · have found : ∀ tree, (before ++ (name, tree) :: after).lookup name = some tree := by
                  intro tree
                  rw [lookup_eq_some_iff (by simpa using unique)]
                  simp
                have inner := ih (entries (name, old) (by simp)) rest
                simpa [at?, same, found] using inner
              · have kept : ∀ tree, (before ++ (name, tree) :: after).lookup part =
                    (before ++ after).lookup part := by
                  intro tree
                  simp [List.lookup_append, List.lookup_cons, beq_false_of_ne same]
                simp only [at?, kept]
                exact ⟨fun entries found => ⟨entries, found⟩, fun bytes found => ⟨bytes, found, by simp⟩⟩

/-- A file with other bytes is listed all the same. -/
theorem listed (differs : DiffersAt way old new) (proper : old.Proper) {options : ScanOptions}
    {rest : List Text} (listed : Scan.Listed options old rest) : Scan.Listed options new rest where
  isFile := by
    obtain ⟨bytes, found⟩ := listed.isFile
    obtain ⟨others, found, -⟩ := (differs.at?_eq proper rest).2 bytes found
    exact ⟨others, found⟩
  readable := by
    intro above start other
    obtain ⟨entries, found⟩ := listed.readable above start other
    exact (differs.at?_eq proper above).1 entries found
  visible := listed.visible
  supported := listed.supported

variable (p : Processor)

/-- The search looks at names only, so it finds the same files whatever the bytes of one of them are. -/
theorem paths_eq (differs : DiffersAt way old new) (proper : old.Proper) :
    p.paths new = p.paths old := by
  have renewed := differs.proper proper
  have same : ∀ path, path ∈ p.paths new ↔ path ∈ p.paths old := by
    intro path
    rw [Processor.paths, Processor.paths, Scan.mem_filePaths_iff p.scan renewed,
      Scan.mem_filePaths_iff p.scan proper]
    constructor
    · rintro ⟨rest, rfl, listed⟩
      exact ⟨rest, rfl, differs.symm.listed renewed listed⟩
    · rintro ⟨rest, rfl, listed⟩
      exact ⟨rest, rfl, differs.listed proper listed⟩
  have perm : (p.paths new).Perm (p.paths old) :=
    (List.perm_ext_iff_of_nodup (Scan.nodup_filePaths p.scan renewed)
      (Scan.nodup_filePaths p.scan proper)).mpr same
  apply perm.eq_of_pairwise _ (Scan.pairwise_filePaths p.scan renewed)
    (Scan.pairwise_filePaths p.scan proper)
  intro a b _ _ less greater
  exact absurd greater (List.lt_asymm less)

/-- The records of all files but the one are the same, in the same order. -/
theorem records_eq (differs : DiffersAt way old new) (proper : old.Proper) :
    (p.records new).filter (fun record => record.source ≠ Path.join way) =
      (p.records old).filter fun record => record.source ≠ Path.join way := by
  rw [Processor.records, Processor.records, differs.paths_eq p proper, List.filter_filterMap,
    List.filter_filterMap]
  apply List.filterMap_congr
  intro path member
  obtain ⟨rest, rfl, listed⟩ := (Scan.mem_filePaths_iff p.scan proper path).mp member
  by_cases one : rest = way
  · -- The record of the one file is left out on both sides.
    have gone : ∀ tree, (p.recordAt? tree (Path.join rest)).filter
        (fun record => decide (record.source ≠ Path.join way)) = none := by
      intro tree
      rw [Option.filter_eq_none_iff]
      intro record made
      obtain ⟨text, -, made⟩ := (p.recordAt?_eq_some_iff ..).mp made
      simp [Processor.source_of_content made, one]
    rw [gone, gone]
  · obtain ⟨bytes, found⟩ := listed.isFile
    obtain ⟨others, kept, same⟩ := (differs.at?_eq proper rest).2 bytes found
    obtain rfl := same one
    rw [Processor.recordAt?, Processor.recordAt?, (differs.proper proper).text?_join kept,
      proper.text?_join found]

end FileTree.DiffersAt

/-! ## What comes of a directory -/

namespace Processor

/-- A file that cannot be read leaves no record, and every other one leaves its own. -/
theorem sources_records (p : Processor) {tree : FileTree} (proper : tree.Proper)
    (extracts : p.Extracts tree) :
    (p.records tree).map Record.source =
      (p.paths tree).filter fun path => (tree.text? path).isSome := by
  rw [records, List.map_filterMap, ← List.filterMap_eq_filter]
  apply List.filterMap_congr
  intro path member
  obtain ⟨way, rfl, listed⟩ := (Scan.mem_filePaths_iff p.scan proper path).mp member
  cases read : tree.text? (Path.join way) with
  | none => simp [recordAt?, read, Option.guard]
  | some text =>
      obtain ⟨record, made⟩ := extracts way text listed read
      have found := (p.recordAt?_eq_some_iff ..).mpr ⟨text, read, made⟩
      simp [found, source_of_content made, Option.guard, read]

theorem length_records (p : Processor) (tree : FileTree) :
    (p.records tree).length + (p.paths tree).countP (fun path => (p.recordAt? tree path).isNone) =
      (p.paths tree).length := by
  rw [records, List.length_filterMap_eq_countP,
    List.length_eq_countP_add_countP (fun path => (p.recordAt? tree path).isSome) (l := p.paths tree)]
  congr 1
  apply List.countP_congr
  intro path _
  cases p.recordAt? tree path <;> simp

theorem directory_eq (p : Processor) (path : Path) {tree : FileTree}
    (isDirectory : tree.IsDirectory) (proper : tree.Proper) (extracts : p.Extracts tree) :
    (p.directory path (some tree)).result = .ok (p.records tree) ∧
      (p.directory path (some tree)).notices.getLast? = some (.directoryDone (p.records tree).length
        ((p.paths tree).countP fun key => (p.recordAt? tree key).isNone)) := by
  have found := p.batch_visits path proper extracts
  simp only [directory, isDirectory.scan_eq, found]
  refine ⟨trivial, ?_⟩
  rw [List.getLast?_concat]

/-- A directory gives one record for each listed file whose bytes are UTF-8, in the order of the listing and
each under the path of its file. All other files are counted. If the bytes of one file change, the other
records stay as they are. -/
theorem directory_records (p : Processor) (path : Path) {tree : FileTree}
    (isDirectory : tree.IsDirectory) (proper : tree.Proper) (extracts : p.Extracts tree) :
    ∃ visits records failed,
      DocComment.scan p.scan path.toText (some tree) = .ok visits ∧
      (p.directory path (some tree)).result = .ok records ∧
      records.map Record.source =
        (Visit.filePaths visits).filter (fun key => (tree.text? key).isSome) ∧
      (records.map Record.source).Nodup ∧
      (∀ key text, tree.text? key = some text ↔
        ∃ decoded, tree.find? (.ofText key) = some (.file (Utf8.encode decoded)) ∧
          text = Text.plainNewlines decoded) ∧
      (∀ record ∈ records, ∃ text, tree.text? record.source = some text ∧
        (p.content text record.source).result = .ok record) ∧
      (p.directory path (some tree)).notices.getLast? =
        some (.directoryDone records.length failed) ∧
      records.length + failed = (Visit.filePaths visits).length ∧
      ∀ way other, FileTree.DiffersAt way tree other → p.Extracts other →
        ∃ changed, (p.directory path (some other)).result = .ok changed ∧
          changed.filter (fun record => record.source ≠ Path.join way) =
            records.filter (fun record => record.source ≠ Path.join way) := by
  obtain ⟨made, done⟩ := p.directory_eq path isDirectory proper extracts
  have keys := p.sources_records proper extracts
  refine ⟨_, _, _, isDirectory.scan_eq p.scan path.toText, made, keys, ?_, tree.text?_eq_some_iff, ?_,
    done, p.length_records tree, ?_⟩
  · rw [keys]
    exact (Scan.nodup_filePaths p.scan proper).filter _
  · intro record member
    obtain ⟨key, -, found⟩ := List.mem_filterMap.mp member
    obtain ⟨text, read, made⟩ := (p.recordAt?_eq_some_iff ..).mp found
    obtain rfl := source_of_content made
    exact ⟨text, read, made⟩
  · intro way other differs extractsOther
    have remade := p.directory_eq path (differs.isDirectory isDirectory) (differs.proper proper)
      extractsOther
    exact ⟨_, remade.1, differs.records_eq p proper⟩

/-- It is enough to look at the files that are listed, of which there are finitely many. -/
theorem extracts_of_check (p : Processor) {tree : FileTree} (proper : tree.Proper)
    (check : ((p.paths tree).all fun path =>
      (tree.text? path).isNone || (p.recordAt? tree path).isSome) = true) : p.Extracts tree := by
  intro way text listed read
  have member := (Scan.mem_filePaths_iff p.scan proper _).mpr ⟨way, rfl, listed⟩
  have checked := List.all_eq_true.mp check _ member
  simp only [read, Option.isNone_some, Bool.false_or, Option.isSome_iff_exists] at checked
  obtain ⟨record, found⟩ := checked
  obtain ⟨text', read', made⟩ := (p.recordAt?_eq_some_iff ..).mp found
  obtain rfl := Option.some.inj (read.symm.trans read')
  exact ⟨record, made⟩

/-- A directory with a file, a file that is given and one in a directory. -/
def mixedTree (bytes : List Nat) : FileTree :=
  .directory true [
    ("b.md".toList, .file bytes),
    ("a.md".toList, .file [45, 32, 82, 101, 116, 117, 114, 110, 115, 58, 32, 120, 13, 121]),
    ("c".toList, .directory true [("d.txt".toList, .file [0xC3, 0xA9])])]

theorem proper_mixedTree (bytes : List Nat) : (mixedTree bytes).Proper := by
  have inner : (FileTree.directory true [("d.txt".toList, .file [0xC3, 0xA9])]).Proper := by
    refine .directory true (by decide) (by decide) ?_
    simpa using FileTree.Proper.file _
  refine .directory true ?_ ?_ ?_
  · simp only [List.map_cons, List.map_nil]
    decide
  · simp only [List.forall_mem_cons]
    decide
  · simp only [List.forall_mem_cons, List.not_mem_nil, false_implies, implies_true, and_true]
    exact ⟨.file _, .file _, inner⟩

/-- Bytes that are no text take one file out of the batch and leave the others as they are. -/
theorem directory_records_mixedTree :
    (mixedTree [0xC3]).IsDirectory ∧ (mixedTree [0xC3]).Proper ∧ Extracts {} (mixedTree [0xC3]) ∧
      Extracts {} (mixedTree [120]) ∧ ∃ records changed,
        (directory {} (.ofText ['d']) (some (mixedTree [0xC3]))).result = .ok records ∧
        records.map Record.source = ["a.md".toList, "c/d.txt".toList] ∧
        (directory {} (.ofText ['d']) (some (mixedTree [120]))).result = .ok changed ∧
        changed.filter (fun record => record.source ≠ "b.md".toList) =
          records.filter (fun record => record.source ≠ "b.md".toList) := by
  have extracts : Extracts {} (mixedTree [0xC3]) :=
    extracts_of_check {} (proper_mixedTree _) (by decide +kernel)
  have others : Extracts {} (mixedTree [120]) :=
    extracts_of_check {} (proper_mixedTree _) (by decide +kernel)
  have differs : FileTree.DiffersAt ["b.md".toList] (mixedTree [0xC3]) (mixedTree [120]) :=
    .entry true [] _ _ (.file [0xC3] [120])
  have isDirectory : (mixedTree [0xC3]).IsDirectory := ⟨true, _, rfl⟩
  obtain ⟨visits, records, failed, found, made, keys, -, -, -, -, -, isolated⟩ :=
    directory_records {} (.ofText ['d']) isDirectory (proper_mixedTree _) extracts
  obtain ⟨changed, remade, same⟩ := isolated _ _ differs others
  refine ⟨isDirectory, proper_mixedTree _, extracts, others, records, changed, made, ?_, remade, same⟩
  rw [keys]
  obtain rfl : Scan.visits {} [] (mixedTree [0xC3]) = visits := Except.ok.inj found
  decide +kernel

end Processor

end DocComment
