import SourceAtlas.Proofs.FileMap
import SourceAtlas.Snapshot.Capture
import SourceAtlas.Snapshot.Diff

/-!
# What a change set lists

Files are `Keyed` when every record stands under its own path, as captures and
single records have it. For such snapshots a change set says of each path
whether its record is new or changed, whether it left, or neither; and when
nothing was added or deleted both snapshots track the same paths.
-/

namespace SourceAtlas

/-- Every record stands under its own path. -/
structure Keyed (files : FileMap FileRecord) : Prop where
  path_eq : ∀ {path : String} {record : FileRecord},
    files[path]? = some record → record.path = path

/-- Where there are no files, all are under their paths. -/
theorem keyed_empty : Keyed ∅ where
  path_eq found := by simp at found

/-- A record put in under its path keeps the files keyed. -/
theorem Keyed.insert {files : FileMap FileRecord} (keyed : Keyed files) {record : FileRecord} :
    Keyed (files.insert record.path record) where
  path_eq found := by
    rw [Std.ExtTreeMap.getElem?_insert] at found
    split at found
    · next same =>
      cases found
      exact Std.LawfulEqCmp.eq_of_compare same
    · exact keyed.path_eq found

/-- Erasing a file keeps the others keyed. -/
theorem Keyed.erase {files : FileMap FileRecord} (keyed : Keyed files) (path : String) :
    Keyed (files.erase path) where
  path_eq found := by
    rw [Std.ExtTreeMap.getElem?_erase] at found
    split at found
    · cases found
    · exact keyed.path_eq found

/-- Records put in under their paths keep the files keyed. -/
theorem Keyed.insertMany {files : FileMap FileRecord} (keyed : Keyed files)
    (records : List FileRecord) :
    Keyed (files.insertMany (records.map fun record => (record.path, record))) := by
  induction records generalizing files with
  | nil =>
    rw [List.map_nil, Std.ExtTreeMap.insertMany_nil]
    exact keyed
  | cons first rest inductionHypothesis =>
    rw [List.map_cons, Std.ExtTreeMap.insertMany_cons]
    exact inductionHypothesis keyed.insert

namespace Snapshot

variable {previous : Option Snapshot} {current snapshot : Snapshot} {path : String}
  {record : FileRecord}

/-- The tracked files of a snapshot that may not exist yet. -/
def filesOf (snapshot : Option Snapshot) : FileMap FileRecord :=
  match snapshot with
  | some snapshot => snapshot.files
  | none => ∅

/-- A capture that succeeds holds what a walk over the directory finds. -/
theorem exists_walk_of_capture {system : FileSystem} {root : String} {options : CaptureOptions}
    {now : Int} (captured : capture system root options now = .ok snapshot) :
    ∃ (context : Capture.Context) (entries : List (String × FileNode)),
      context.system = system ∧ context.options = options ∧
      system.node context.root = .ok (.directory entries) ∧
      snapshot = ofFiles context.root now
        (Std.ExtTreeMap.ofList ((Capture.walkNode context [] 0 "" (.directory entries)).records.map
          fun record => (record.path, record)) compare)
        (Capture.walkNode context [] 0 "" (.directory entries)).skipped := by
  rw [capture] at captured
  split at captured
  · cases captured
  · next canonical _ =>
    split at captured
    · next entries located =>
      obtain ⟨overrides, -, taken⟩ := bind_eq_ok_iff.mp captured
      exact ⟨⟨system, canonical, options, overrides⟩, entries, rfl, rfl, located,
        (Except.ok.inj taken).symm⟩
    · cases captured

/-- A capture puts every record under its own path. -/
theorem keyed_capture {system : FileSystem} {root : String} {options : CaptureOptions} {now : Int}
    (captured : capture system root options now = .ok snapshot) : Keyed snapshot.files := by
  obtain ⟨context, entries, -, -, -, rfl⟩ := exists_walk_of_capture captured
  rw [ofFiles, Std.ExtTreeMap.ofList_eq_insertMany_empty]
  exact keyed_empty.insertMany _

/-- A single record stands for the key it was asked for. -/
theorem path_recordFile? {system : FileSystem} {root key : String} {options : CaptureOptions}
    (recorded : recordFile? system root key options = .ok (some record)) : record.path = key := by
  obtain ⟨overrides, -, recorded⟩ := bind_eq_ok_iff.mp recorded
  dsimp only at recorded
  split at recorded
  · cases recorded
  · split at recorded
    · split at recorded
      · cases recorded
      · cases recorded
        rfl
    · cases recorded
    · cases recorded
    · cases recorded

/-- The paths of the tracked files. -/
def knownFiles (files : FileMap FileRecord) : FileSet := Std.ExtTreeSet.ofList files.keys compare

/-- The known files are the tracked ones. -/
theorem mem_knownFiles {files : FileMap FileRecord} : path ∈ knownFiles files ↔ path ∈ files := by
  simp [knownFiles]

/-- The records of one class. -/
theorem mem_ofClass {before : FileMap FileRecord} {wanted : FileChange} :
    record ∈ (current.files.toList.filter fun entry =>
        classify before entry.1 entry.2 = wanted).map Prod.snd ↔
      ∃ path : String, current.files[path]? = some record ∧
        classify before path record = wanted := by
  simp only [List.mem_map, List.mem_filter, decide_eq_true_eq, Prod.exists,
    Std.ExtTreeMap.mem_toList_iff_getElem?_eq_some]
  constructor
  · rintro ⟨path, _, found, rfl⟩
    exact ⟨path, found⟩
  · rintro ⟨path, found⟩
    exact ⟨path, record, found, rfl⟩

/-- The added records are those classified as added. -/
theorem mem_added_diff :
    record ∈ (diff previous current).added ↔
      ∃ path : String, current.files[path]? = some record ∧
        classify (filesOf previous) path record = .added := by
  cases previous with
  | none => simp [diff, filesOf, classify, FileMap.mem_values_iff]
  | some previous => exact mem_ofClass

/-- The modified records are those classified as modified. -/
theorem mem_modified_diff :
    record ∈ (diff previous current).modified ↔
      ∃ path : String, current.files[path]? = some record ∧
        classify (filesOf previous) path record = .modified := by
  cases previous with
  | none => simp [diff, filesOf, classify]
  | some previous => exact mem_ofClass

/-- What a pass reads: the current records without a counterpart that describes the same
contents. -/
theorem mem_upserted_diff (keyed : Keyed current.files) :
    record ∈ (diff previous current).upserted ↔
      current.files[record.path]? = some record ∧
        classify (filesOf previous) record.path record ≠ .unchanged := by
  rw [ChangeSet.upserted, List.mem_append, mem_added_diff, mem_modified_diff]
  constructor
  · rintro (⟨path, found, sort⟩ | ⟨path, found, sort⟩) <;>
    · rw [keyed.path_eq found, sort]
      exact ⟨found, by simp⟩
  · rintro ⟨found, changed⟩
    cases sort : classify (filesOf previous) record.path record with
    | added => exact .inl ⟨record.path, found, sort⟩
    | modified => exact .inr ⟨record.path, found, sort⟩
    | unchanged => exact absurd sort changed

/-- The deleted paths were tracked before and are no longer. -/
theorem mem_deleted_diff :
    path ∈ (diff previous current).deleted ↔ path ∈ filesOf previous ∧ path ∉ current.files := by
  cases previous with
  | none => simp [diff, filesOf]
  | some previous =>
    simp only [diff, filesOf, List.mem_filter, Std.ExtTreeMap.mem_keys, Bool.not_eq_true',
      ← Bool.not_eq_true, Std.ExtTreeMap.contains_iff_mem]

/-- Without added and deleted paths both snapshots track the same paths. -/
theorem knownFiles_eq_of_diff (noneAdded : (diff previous current).added = [])
    (noneDeleted : (diff previous current).deleted = []) :
    knownFiles current.files = knownFiles (filesOf previous) := by
  refine Std.ExtTreeSet.ext_mem fun path => ?_
  rw [mem_knownFiles, mem_knownFiles]
  constructor
  · intro tracked
    obtain ⟨record, found⟩ := Option.isSome_iff_exists.mp
      (Std.ExtTreeMap.mem_iff_isSome_getElem?.mp tracked)
    refine Classical.not_not.mp fun absent => ?_
    have sort : classify (filesOf previous) path record = .added := by
      rw [classify, Std.ExtTreeMap.getElem?_eq_none absent]
    have listed := mem_added_diff.mpr ⟨path, found, sort⟩
    rw [noneAdded] at listed
    cases listed
  · intro tracked
    refine Classical.not_not.mp fun gone => ?_
    have listed := mem_deleted_diff.mpr ⟨tracked, gone⟩
    rw [noneDeleted] at listed
    cases listed

end Snapshot

end SourceAtlas
