import SourceAtlas.Proofs.Snapshot.Walk

/-!
# Single records and captures

A capture decides about a file from the top down: it passes over entries on the
way and enters no link. A single record is decided from the file itself, by a
rule of its own. Both give the same record for a path exactly when the two
rules agree on it (`recordFile?_eq_capture_iff`), and they do not always: a
directory that an override names is passed over by a capture while its files
can still be recorded one by one.
-/

namespace SourceAtlas

namespace Capture

variable {context : Context} {entries : List (String × FileNode)} {key : String}
  {content : ByteArray} {modified : Int}

/-- The rule of a capture: a descent without links ends at the file, and no entry on the way is
passed over. -/
def isWalked (context : Context) (directory : FileNode) (key : String) : Bool :=
  (match directory.nodeAt? (PathKey.segments key) with
    | some node => node.isFile
    | none => false) && isKept context [] "" (PathKey.segments key)

/-- The rule of a single record: no name on the way starts with a dot, and neither the overrides
nor the ignore files leave the file out. -/
def isAdmitted (context : Context) (key : String) : Bool :=
  !(PathKey.segments key).any (Text.startsWith ".") &&
    !isOverridden context.overrides false key && !isIgnoredFile context.system context.root key

/-- A file is excluded if it lies too deep or is not admitted. -/
theorem isExcludedFile_eq (context : Context) (key : String) :
    isExcludedFile context.system context.root key context.options context.overrides =
      (decide (depthLimit context.options < (PathKey.segments key).length) ||
        !isAdmitted context key) := by
  simp only [isExcludedFile, isAdmitted]
  cases (PathKey.segments key).any (Text.startsWith ".") <;>
    cases isOverridden context.overrides false key <;>
    cases isIgnoredFile context.system context.root key <;>
    simp

/-- What is found at the segments of a key is the file that its path leads to. -/
theorem node_of_foundAt? {record : FileRecord} (sound : context.system.top.isSound = true)
    (canonical : context.system.canonical context.root = .ok context.root)
    (located : context.system.node context.root = .ok (.directory entries))
    (found : foundAt? context [] 0 "" (.directory entries) (PathKey.segments key) = some record) :
    ∃ content modified,
      context.system.node (PathKey.below context.root key) = .ok (.file content modified) ∧
      isWalked context (.directory entries) key = true ∧
      (PathKey.segments key).length ≤ depthLimit context.options ∧
      content.size ≤ context.options.maxFileSize ∧
      record = recordOf context.options key (PathKey.below context.root key) content modified := by
  have soundHere := FileSystem.sound_of_node sound located
  obtain ⟨content, modified, ends, kept, deep, short, small, same⟩ := foundAt?_eq_some_iff.mp found
  rw [keyBelow_segments soundHere ends] at short same
  have fits : (PathKey.below context.root key).utf8ByteSize ≤ FileSystem.maxPathBytes := by
    simpa [isTooLong] using short
  have deep : (PathKey.segments key).length ≤ depthLimit context.options := by
    rcases deep with blank | deep
    · exact absurd blank (PathKey.segments_ne_nil key)
    · omega
  refine ⟨content, modified, FileSystem.node_of_nodeAt? sound canonical located ends fits, ?_,
    deep, small, same⟩
  rw [isWalked, ends, kept]
  rfl

/-- Where a path leads to a file, a capture finds it exactly by its rule. -/
theorem foundAt?_of_node (sound : context.system.top.isSound = true)
    (canonical : context.system.canonical context.root = .ok context.root)
    (located : context.system.node context.root = .ok (.directory entries))
    (leads : context.system.node (PathKey.below context.root key) = .ok (.file content modified))
    (small : content.size ≤ context.options.maxFileSize)
    (deep : (PathKey.segments key).length ≤ depthLimit context.options) :
    foundAt? context [] 0 "" (.directory entries) (PathKey.segments key) =
      if isWalked context (.directory entries) key then
        some (recordOf context.options key (PathKey.below context.root key) content modified)
      else none := by
  have fits := FileSystem.short_of_node leads
  split
  · next walked =>
    rw [isWalked, Bool.and_eq_true] at walked
    obtain ⟨ends, kept⟩ := walked
    split at ends
    · next node here =>
      cases node with
      | directory entries => cases ends
      | link target => cases ends
      | file content' modified' =>
        have same := FileSystem.node_of_nodeAt? sound canonical located here fits
        rw [leads] at same
        cases same
        have soundHere := FileSystem.sound_of_node sound located
        have whole := keyBelow_segments soundHere here
        refine foundAt?_eq_some_iff.mpr
          ⟨content, modified, here, kept, .inr (by omega), ?_, small, ?_⟩
        · rw [whole]
          simpa [isTooLong] using fits
        · rw [whole]
    · cases ends
  · next passed =>
    refine Option.eq_none_iff_forall_ne_some.mpr fun record found => ?_
    obtain ⟨_, _, -, walked, -⟩ := node_of_foundAt? sound canonical located found
    exact passed walked

end Capture

namespace Snapshot

open SourceAtlas.Capture

variable {context : Context} {entries : List (String × FileNode)} {key : String}

/-- A file is recorded if it is not excluded, is there and is not too large. -/
theorem recordFile?_eq (read : Capture.overrides context.options.ignorePatterns =
      .ok context.overrides) (key : String) :
    recordFile? context.system context.root key context.options =
      if isExcludedFile context.system context.root key context.options context.overrides then
        .ok none
      else
        match context.system.node (PathKey.below context.root key) with
        | .ok (.file content modified) =>
          if context.options.maxFileSize < content.size then .ok none
          else .ok (some (recordOf context.options key (PathKey.below context.root key) content modified))
        | .ok _ => .ok none
        | .error .notFound => .ok none
        | .error failure => .error (.access (PathKey.below context.root key) failure) := by
  rw [recordFile?, read]
  rfl

/-- Where a path leads to a file, a single record is made exactly by its rule. -/
theorem recordFile?_of_node {content : ByteArray} {modified : Int}
    (read : Capture.overrides context.options.ignorePatterns = .ok context.overrides)
    (leads : context.system.node (PathKey.below context.root key) = .ok (.file content modified))
    (small : content.size ≤ context.options.maxFileSize)
    (deep : (PathKey.segments key).length ≤ depthLimit context.options) :
    recordFile? context.system context.root key context.options =
      .ok (if isAdmitted context key then
        some (recordOf context.options key (PathKey.below context.root key) content modified)
      else none) := by
  rw [recordFile?_eq read, isExcludedFile_eq, leads]
  cases isAdmitted context key with
  | false => simp
  | true => simp [Nat.not_lt.mpr deep, Nat.not_lt.mpr small]

/-- The path of a key leads to a file that is small and not too deep. -/
def LeadsToFile (context : Context) (key : String) : Prop :=
  ∃ content modified,
    context.system.node (PathKey.below context.root key) = .ok (.file content modified) ∧
    content.size ≤ context.options.maxFileSize ∧
    (PathKey.segments key).length ≤ depthLimit context.options

/-- Where a key leads to no file nothing is recorded. -/
theorem recordFile?_eq_none {found : Option FileRecord}
    (read : Capture.overrides context.options.ignorePatterns = .ok context.overrides)
    (recorded : recordFile? context.system context.root key context.options = .ok found)
    (nowhere : ¬LeadsToFile context key) : found = none := by
  rw [recordFile?_eq read, isExcludedFile_eq] at recorded
  split at recorded
  · cases recorded
    rfl
  · next kept =>
    have deep : (PathKey.segments key).length ≤ depthLimit context.options := by
      simp only [Bool.or_eq_true, decide_eq_true_eq, not_or, Nat.not_lt] at kept
      exact kept.1
    split at recorded
    · next content modified leads =>
      split at recorded
      · cases recorded
        rfl
      · next small =>
        exact absurd ⟨content, modified, leads, Nat.not_lt.mp small, deep⟩ nowhere
    · cases recorded
      rfl
    · cases recorded
      rfl
    · cases recorded

/-- A single record that can be made is the one of a capture exactly when the path leads to no file
that is small and not too deep, or the two rules agree on it. -/
theorem recordFile?_eq_capture_iff (sound : context.system.top.isSound = true)
    (canonical : context.system.canonical context.root = .ok context.root)
    (located : context.system.node context.root = .ok (.directory entries))
    (read : Capture.overrides context.options.ignorePatterns = .ok context.overrides)
    (recorded : ∃ found, recordFile? context.system context.root key context.options = .ok found)
    (now : Int) :
    ∃ snapshot, capture context.system context.root context.options now = .ok snapshot ∧
      (recordFile? context.system context.root key context.options = .ok snapshot.files[key]? ↔
        (LeadsToFile context key →
          isWalked context (.directory entries) key = isAdmitted context key)) := by
  obtain ⟨snapshot, captured, files⟩ := exists_capture sound canonical located read now
  refine ⟨snapshot, captured, ?_⟩
  rw [files]
  by_cases leadsToFile : LeadsToFile context key
  · obtain ⟨content, modified, leads, small, deep⟩ := leadsToFile
    have here : LeadsToFile context key := ⟨content, modified, leads, small, deep⟩
    rw [foundAt?_of_node sound canonical located leads small deep,
      recordFile?_of_node read leads small deep]
    cases isAdmitted context key <;> cases isWalked context (.directory entries) key <;> simp [here]
  · obtain ⟨found, recorded⟩ := recorded
    have absent : foundAt? context [] 0 "" (.directory entries) (PathKey.segments key) = none := by
      refine Option.eq_none_iff_forall_ne_some.mpr fun record found => ?_
      obtain ⟨content, modified, leads, -, deep, small, -⟩ :=
        node_of_foundAt? sound canonical located found
      exact leadsToFile ⟨content, modified, leads, small, deep⟩
    rw [recorded, recordFile?_eq_none read recorded leadsToFile, absent]
    simp [leadsToFile]

/-! ## A directory that an override names -/

/-- One file in a directory `lib`, and the override `lib`. -/
def overriddenLibrary : Context where
  system := { top := .directory [("lib", .directory [("a.ts", .file "x".toUTF8 0)])] }
  root := "/"
  options :=
    { extensions := ["ts"]
      ignorePatterns := ["lib"]
      maxDepth := 10
      maxFileSize := 1000
      checksums := false }
  overrides := (Capture.overrides ["lib"]).toOption.getD []

/-- The two ways disagree on the file: a capture passes over the directory, a single record is
made. -/
theorem recordFile?_ne_capture :
    ∃ snapshot record,
      capture overriddenLibrary.system overriddenLibrary.root overriddenLibrary.options 0 =
        .ok snapshot ∧
      overriddenLibrary.system.canonical overriddenLibrary.root = .ok overriddenLibrary.root ∧
      PathKey.normalize? "lib/a.ts" = some "lib/a.ts" ∧
      recordFile? overriddenLibrary.system overriddenLibrary.root "lib/a.ts"
        overriddenLibrary.options = .ok (some record) ∧
      snapshot.files["lib/a.ts"]? = none := by
  obtain ⟨snapshot, captured, passedOver⟩ := exists_ok_of_any (show
    (capture overriddenLibrary.system overriddenLibrary.root overriddenLibrary.options
      0).toOption.any (fun snapshot => snapshot.files["lib/a.ts"]?.isNone) = true by
    decide +kernel)
  obtain ⟨found, recorded, made⟩ := exists_ok_of_any (show
    (recordFile? overriddenLibrary.system overriddenLibrary.root "lib/a.ts"
      overriddenLibrary.options).toOption.any Option.isSome = true by
    decide +kernel)
  obtain ⟨record, rfl⟩ := Option.isSome_iff_exists.mp made
  exact ⟨snapshot, record, captured, eq_ok_of_toOption (by decide +kernel), by decide +kernel,
    recorded, Option.isNone_iff_eq_none.mp passedOver⟩

/-- The rules are those of the two ways on the file. -/
theorem overriddenLibrary_eq_capture_iff :
    ∃ entries snapshot,
      capture overriddenLibrary.system overriddenLibrary.root overriddenLibrary.options 0 =
        .ok snapshot ∧
      (recordFile? overriddenLibrary.system overriddenLibrary.root "lib/a.ts"
          overriddenLibrary.options = .ok snapshot.files["lib/a.ts"]? ↔
        (LeadsToFile overriddenLibrary "lib/a.ts" →
          isWalked overriddenLibrary (.directory entries) "lib/a.ts" =
            isAdmitted overriddenLibrary "lib/a.ts")) := by
  obtain ⟨node, located, isDirectory⟩ := exists_ok_of_any (show
    (overriddenLibrary.system.node overriddenLibrary.root).toOption.any FileNode.isDirectory =
      true by
    decide +kernel)
  obtain ⟨found, recorded, -⟩ := exists_ok_of_any (show
    (recordFile? overriddenLibrary.system overriddenLibrary.root "lib/a.ts"
      overriddenLibrary.options).toOption.any Option.isSome = true by
    decide +kernel)
  cases node with
  | file content modified => cases isDirectory
  | link target => cases isDirectory
  | directory entries =>
    exact ⟨entries, recordFile?_eq_capture_iff (by decide +kernel)
      (eq_ok_of_toOption (by decide +kernel)) located (eq_ok_of_toOption (by decide +kernel))
      ⟨found, recorded⟩ 0⟩

end Snapshot

end SourceAtlas
