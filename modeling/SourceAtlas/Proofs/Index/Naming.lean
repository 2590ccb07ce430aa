import SourceAtlas.Proofs.Index.Lifecycle
import SourceAtlas.Proofs.Index.Taken
import SourceAtlas.Proofs.Path.Normal
import SourceAtlas.Proofs.Snapshot.Walk

/-!
# Names of tracked files

A tracked file can be named by its absolute path, written in any way, or by its
key, which is its path relative to the root. Both names have to lead to the file
(`Reaches`). The absolute path always does. The key does unless it has a
backslash: relative paths are read with backslashes for slashes, while a capture
takes the names of files as they are.
-/

namespace SourceAtlas

open PathKey

/-- The key of a captured file is a path of entry names. -/
theorem Snapshot.underRoot_of_capture {files : FileSystem} {root key : String}
    {options : CaptureOptions} {taken : Int} {snapshot : Snapshot}
    (sound : files.top.isSound = true)
    (captured : capture files root options taken = .ok snapshot)
    (tracked : key ∈ snapshot.files) : UnderRoot key := by
  obtain ⟨context, entries, rfl, -, located, rfl⟩ := exists_walk_of_capture captured
  have soundHere := FileSystem.sound_of_node sound located
  obtain ⟨record, found⟩ := (mem_keys_iff _).mp tracked
  rw [ofFiles, FileMap.getElem?_ofList, Capture.lastFor_walkNode soundHere] at found
  obtain ⟨valid, -⟩ := Capture.names_of_foundAt? soundHere found
  rw [← ofSegments_segments key]
  exact UnderRoot.ofSegments (segments_ne_nil key) fun name member =>
    ⟨(valid name member).toOrdinary, (valid name member).slashFree⟩

/-- Canonical paths are absolute. -/
theorem FileSystem.absolute_canonical {files : FileSystem} {path canonical : String}
    (leads : files.canonical path = .ok canonical) : Text.startsWith "/" canonical = true := by
  obtain ⟨place, -, named⟩ := bind_eq_ok_iff.mp leads
  cases place with
  | missing names => cases named
  | found names node =>
    cases named
    exact Text.startsWith_iff.mpr ⟨ofSegments names, rfl⟩

/-- An update that succeeds recorded the keys that it was asked for. -/
theorem Visit.Takes.recordFile?_of_update {σ : Type} {visit : Visit σ} {index : Index σ}
    {snapshot : Snapshot} {paths : List String} {key : String}
    (takes : visit.Takes index snapshot) (request : visit.request = .update paths)
    (asked : ∃ given ∈ paths, index.keyOf? visit.workspace.files given = some key) :
    Snapshot.recordFile? visit.workspace.files index.root key index.captureOptions =
      .ok snapshot.files[key]? := by
  cases takes with
  | capture captures => cases captures.symm.trans request
  | records updates ready taken recorded same =>
    obtain rfl := PassRequest.update.inj (updates.symm.trans request)
    rw [same]
    exact (Index.getElem?_recordKeys recorded key).2 (Index.mem_keysOf.mpr asked)

namespace Index

variable {σ : Type} {index : Index σ} {files : FileSystem} {path key : String}

/-- A created index has an absolute root. -/
theorem absolute_root_create {root : String} {settings : Settings} {parser : FactParser}
    {provider : Option (Provider σ)}
    (created : create files root settings parser provider = .ok index) :
    Text.startsWith "/" index.root = true := by
  rw [create] at created
  split at created
  · next leads =>
    cases created
    exact FileSystem.absolute_canonical leads
  · cases created

/-- An opened index has an absolute root. -/
theorem absolute_root_openSaved {workspace after : Workspace σ} {root : String}
    {settings : Settings} {parser : FactParser} {provider : Option (Provider σ)}
    (opened : openSaved workspace root settings parser provider = .ok (index, after)) :
    Text.startsWith "/" index.root = true := by
  obtain ⟨start, created, opened⟩ := bind_eq_ok_iff.mp opened
  have absolute := absolute_root_create created
  split at opened <;> cases opened <;> exact absolute

/-- No operation moves an index, so it stays at the absolute path that it was created with. -/
theorem Lived.absolute_root (lived : index.Lived) : Text.startsWith "/" index.root = true := by
  induction lived with
  | created created => exact absolute_root_create created
  | opened opened _ => exact absolute_root_openSaved opened
  | reopened _ _ opened _ _ => exact absolute_root_openSaved opened
  | after _ operation inductionHypothesis =>
    rw [operation.root_after]
    exact inductionHypothesis

/-- A name leads to the file with a key: queries answer for that key, and an update that is given
the name and succeeds records what stands there at present. -/
structure Reaches (index : Index σ) (files : FileSystem) (path key : String) : Prop where
  named : index.keyOf? files path = some key
  symbols : index.symbolsInFile files path =
    (index.readyState "symbols_in_file").map fun state => state.symbols.inFile key
  dependencies : index.dependencies files path =
    (index.readyState "dependencies").map fun state => state.graph.neighbors key
  dependents : index.dependents files path =
    (index.readyState "dependents").map fun state =>
      ((state.graph.get? key).map fun node => node.dependents.toList).getD []
  analysis : index.analyzeFile files path =
    (index.readyState "module_analysis").map fun state => state.graph.analyzeFile? key
  update : ∀ (workspace : Workspace σ) (paths : List String) (now : Int) (stats : PassStats),
    workspace.files = files → path ∈ paths →
      (index.update workspace paths now).result = .ok stats →
        ∃ snapshot, (index.update workspace paths now).index.published.snapshot = some snapshot ∧
          Snapshot.recordFile? files index.root key index.captureOptions = .ok snapshot.files[key]?

/-- A path that is named by a key reaches it. -/
theorem reaches_of_keyOf? (named : index.keyOf? files path = some key) :
    index.Reaches files path key where
  named := named
  symbols := by
    rw [symbolsInFile, named]
    rfl
  dependencies := by
    rw [Index.dependencies, named]
    rfl
  dependents := by
    rw [Index.dependents, named]
    cases index.readyState "dependents" with
    | error failure => rfl
    | ok state => cases found : state.graph.get? key <;> simp [bind, Except.bind, Except.map, found]
  analysis := by
    rw [analyzeFile, named]
    rfl
  update := by
    intro workspace paths now stats same member succeeds
    obtain rfl := same
    let visit : Visit σ := { request := .update paths, workspace, now }
    obtain ⟨snapshot, takes⟩ : ∃ snapshot, visit.Takes index snapshot := Visit.takes_of_ok succeeds
    refine ⟨snapshot, ?_, takes.recordFile?_of_update rfl ⟨path, member, named⟩⟩
    exact (congrArg IndexState.snapshot takes.published.1).trans PassContext.snapshot_apply

/-- An absolute path leads to the file below the root that its components name. -/
theorem keyOf?_of_components (absolute : Text.startsWith "/" path = true) (under : UnderRoot key)
    (below : components path = components index.root ++ segments key) :
    index.keyOf? files path = some key := by
  have relative := relative?_of_components (segments_ne_nil key) below
  rw [ofSegments_segments] at relative
  simp [keyOf?, absolute, relative, under.normal, under.ne_blank]

/-- A path under the root leads to itself exactly when it has no backslash. -/
theorem keyOf?_eq_self_iff (under : UnderRoot key) :
    index.keyOf? files key = some key ↔ '\\' ∉ key.toList := by
  have relative : index.keyOf? files key =
      (normalize? (Text.replaceChar '\\' "/" key)).bind fun normal =>
        if normal = "" then none else some normal := by
    simp [keyOf?, under.not_absolute]
  rw [relative]
  constructor
  · intro same member
    obtain ⟨normal, normalized, chosen⟩ := Option.bind_eq_some_iff.mp same
    obtain rfl : normal = key := by
      split at chosen
      · cases chosen
      · exact Option.some.inj chosen
    have kept := mem_of_normalize? normalized member (by decide)
    exact Text.not_mem_replaceChar (by decide) normal kept
  · intro free
    rw [Text.replaceChar_of_not_mem free, under.normal]
    exact if_neg under.ne_blank

/-- Every absolute path of a captured file leads to the file; its key does exactly when it has no
backslash. -/
theorem reaches_key_iff {options : CaptureOptions} {taken : Int} {snapshot : Snapshot}
    (lived : index.Lived) (sound : files.top.isSound = true)
    (captured : Snapshot.capture files index.root options taken = .ok snapshot)
    (tracked : key ∈ snapshot.files) (later : FileSystem) :
    (∀ path, Text.startsWith "/" path = true →
        components path = components (index.root ++ "/" ++ key) → index.Reaches later path key) ∧
      (index.Reaches later key key ↔ '\\' ∉ key.toList) := by
  have under := Snapshot.underRoot_of_capture sound captured tracked
  constructor
  · intro path absolute same
    rw [components_below lived.absolute_root under] at same
    exact reaches_of_keyOf? (keyOf?_of_components absolute under same)
  · have alone : index.keyOf? later key = some key ↔ '\\' ∉ key.toList := keyOf?_eq_self_iff under
    rw [← alone]
    exact ⟨Reaches.named, reaches_of_keyOf?⟩

/-! ## A file with a backslash in its name -/

/-- A project of two files, one of them with a backslash in its name. -/
def backslashProject : FileSystem where
  top := .directory
    [("p", .directory [("a\\b.ts", .file "f".toUTF8 0), ("c.ts", .file "g".toUTF8 0)])]

/-- The build of the project. -/
def backslashBuild : Visit Unit where
  request := .build {}
  workspace := { files := backslashProject, provider := () }
  now := 1

/-- Both absolute paths lead to their files, and of the two keys the one without a backslash. -/
theorem backslashProject_reaches :
    wordIndex.Lived ∧ backslashProject.top.isSound = true ∧
      ∃ snapshot, Snapshot.capture backslashProject wordIndex.root wordIndex.captureOptions 1 =
          .ok snapshot ∧
        "a\\b.ts" ∈ snapshot.files ∧ "c.ts" ∈ snapshot.files ∧
        wordIndex.Reaches backslashProject "/p/./a\\b.ts" "a\\b.ts" ∧
        ¬wordIndex.Reaches backslashProject "a\\b.ts" "a\\b.ts" ∧
        wordIndex.Reaches backslashProject "/p//c.ts" "c.ts" ∧
        wordIndex.Reaches backslashProject "c.ts" "c.ts" := by
  have lived : wordIndex.Lived := .created create_wordIndex
  have sound : backslashProject.top.isSound = true := by decide +kernel
  obtain ⟨snapshot, captured, tracked⟩ := exists_ok_of_any (show
    (Snapshot.capture backslashProject wordIndex.root wordIndex.captureOptions 1).toOption.any
      (fun snapshot =>
        snapshot.files.contains "a\\b.ts" && snapshot.files.contains "c.ts") = true by
    decide +kernel)
  rw [Bool.and_eq_true] at tracked
  have trackedFirst : "a\\b.ts" ∈ snapshot.files := Std.ExtTreeMap.mem_iff_contains.mpr tracked.1
  have trackedSecond : "c.ts" ∈ snapshot.files := Std.ExtTreeMap.mem_iff_contains.mpr tracked.2
  have first := reaches_key_iff lived sound captured trackedFirst backslashProject
  have second := reaches_key_iff lived sound captured trackedSecond backslashProject
  exact ⟨lived, sound, snapshot, captured, trackedFirst, trackedSecond,
    first.1 "/p/./a\\b.ts" (by decide +kernel) (by decide +kernel),
    fun reaches => first.2.mp reaches (by decide +kernel),
    second.1 "/p//c.ts" (by decide +kernel) (by decide +kernel),
    second.2.mpr (by decide +kernel)⟩

/-- The key of the file is read as the path of another one, which is not there. -/
theorem backslashProject_misses :
    let index := (backslashBuild.outcome wordIndex).index
    (Snapshot.filesOf index.published.snapshot).contains "a\\b.ts" = true ∧
      index.keyOf? backslashProject "/p/a\\b.ts" = some "a\\b.ts" ∧
      index.keyOf? backslashProject "a\\b.ts" = some "a/b.ts" ∧
      (index.symbolsInFile backslashProject "/p/a\\b.ts").toOption.map List.length = some 1 ∧
      (index.symbolsInFile backslashProject "a\\b.ts").toOption.map List.length = some 0 := by
  decide +kernel

end Index

end SourceAtlas
