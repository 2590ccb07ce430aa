import Mathlib.Data.Finset.Card
import Mathlib.Data.Finset.Dedup
import SourceAtlas.Proofs.Snapshot.Changes

/-!
# A change set is a partition and a patch

Every path of two snapshots is added, modified, deleted or unchanged, and only
one of these (`Partition`). Dropping the deleted paths from the earlier files
and putting in the added and modified records leads to the paths of the later
snapshot.
-/

namespace SourceAtlas

/-- The time stamps of files as they are captured: milliseconds that fit into a signed word. -/
structure Timed (files : FileMap FileRecord) : Prop where
  modified_mem : ∀ {path : String} {record : FileRecord}, files[path]? = some record →
    0 ≤ record.modified ∧ record.modified < Word64.half

/-- Two records of one path tell different contents: by their sizes, else by their digests, and by
time stamps more than a second apart when a digest is missing. -/
def FileRecord.Differ (old new : FileRecord) : Prop :=
  old.size ≠ new.size ∨
    (∃ before after, old.checksum = some before ∧ new.checksum = some after ∧ before ≠ after) ∨
    (old.checksum = none ∨ new.checksum = none) ∧ 1000 < (old.modified - new.modified).natAbs

/-- Time stamps of signed words are compared without wrapping around. -/
theorem timesDiffer_iff {old new : Int} (oldTime : 0 ≤ old ∧ old < Word64.half)
    (newTime : 0 ≤ new ∧ new < Word64.half) :
    timesDiffer old new = true ↔ 1000 < (old - new).natAbs := by
  have delta : timeDelta old new = old - new := by
    rw [timeDelta, Int.bmod_eq_of_le] <;> simp only [Word64.half, Word64.count] at * <;> omega
  simp only [timesDiffer, delta, timeTolerance, Bool.or_eq_true, Bool.and_eq_true,
    decide_eq_true_eq, Word64.half] at *
  omega

/-- The comparison of two records tells exactly whether they differ. -/
theorem FileRecord.changedFrom_iff {old new : FileRecord}
    (oldTime : 0 ≤ old.modified ∧ old.modified < Word64.half)
    (newTime : 0 ≤ new.modified ∧ new.modified < Word64.half) :
    new.changedFrom old = true ↔ old.Differ new := by
  rw [changedFrom, Differ]
  by_cases size : old.size = new.size
  · cases before : old.checksum <;> cases after : new.checksum <;>
      simp [size, timesDiffer_iff oldTime newTime]
  · simp [size]

/-- No record differs from itself. -/
theorem FileRecord.changedFrom_self (record : FileRecord) : record.changedFrom record = false := by
  have sameTime : timesDiffer record.modified record.modified = false := by
    rw [timesDiffer, timeDelta, Int.sub_self, Int.zero_bmod]
    decide
  cases checksum : record.checksum <;> simp [changedFrom, checksum, sameTime]

namespace Snapshot

variable {previous : Option Snapshot} {current : Snapshot} {path : String} {record : FileRecord}

/-- A record that is still the same one is unchanged. -/
theorem classify_of_same {before : FileMap FileRecord} (same : before[path]? = some record) :
    classify before path record = .unchanged := by
  simp [classify, same, record.changedFrom_self]

/-- The current entries of one class. -/
def classed (before : FileMap FileRecord) (current : Snapshot) (wanted : FileChange) :
    List (String × FileRecord) :=
  current.files.toList.filter fun entry => classify before entry.1 entry.2 = wanted

/-- Without a previous snapshot all files are added, as they are against one without files. -/
theorem diff_eq (previous : Option Snapshot) (current : Snapshot) :
    diff previous current =
      { added := (classed (filesOf previous) current .added).map Prod.snd
        modified := (classed (filesOf previous) current .modified).map Prod.snd
        deleted := (filesOf previous).keys.filter fun path => !current.files.contains path
        unchanged := (classed (filesOf previous) current .unchanged).length } := by
  cases previous with
  | none => simp [diff, filesOf, classed, classify, FileMap.values_eq]
  | some previous => rfl

/-- A class lists the current records that are classified so, with their paths. -/
theorem mem_classed {before : FileMap FileRecord} {wanted : FileChange} :
    (path, record) ∈ classed before current wanted ↔
      current.files[path]? = some record ∧ classify before path record = wanted := by
  simp [classed, Std.ExtTreeMap.mem_toList_iff_getElem?_eq_some]

/-- The paths of a class are in order, each under its own name. -/
theorem paths_classed (keyed : Keyed current.files) (before : FileMap FileRecord)
    (wanted : FileChange) :
    ((classed before current wanted).map Prod.snd).map FileRecord.path =
      (classed before current wanted).map Prod.fst := by
  rw [List.map_map]
  refine List.map_congr_left fun entry member => ?_
  exact keyed.path_eq (mem_classed.mp member).1

/-- A class lists its paths in strictly rising order. -/
theorem ordered_classed (before : FileMap FileRecord) (wanted : FileChange) :
    ((classed before current wanted).map Prod.fst).Pairwise (· < ·) := by
  rw [List.pairwise_map]
  refine (Std.ExtTreeMap.ordered_keys_toList.filter _).imp fun {first second} below => ?_
  exact compareOfLessAndEq_eq_lt.mp below

/-- The paths of a class are those whose records are classified so. -/
theorem mem_paths_classed {before : FileMap FileRecord} {wanted : FileChange} :
    path ∈ (classed before current wanted).map Prod.fst ↔
      ∃ record, current.files[path]? = some record ∧ classify before path record = wanted := by
  simp only [List.mem_map, Prod.exists, mem_classed]
  constructor
  · rintro ⟨path, record, found, rfl⟩
    exact ⟨record, found⟩
  · rintro ⟨record, found⟩
    exact ⟨path, record, found, rfl⟩

/-- A path is of one class only. -/
theorem disjoint_classed {before : FileMap FileRecord} {first second : FileChange}
    (apart : first ≠ second) :
    List.Disjoint ((classed before current first).map Prod.fst)
      ((classed before current second).map Prod.fst) := by
  intro path inFirst inSecond
  obtain ⟨record, found, sort⟩ := mem_paths_classed.mp inFirst
  obtain ⟨record', found', sort'⟩ := mem_paths_classed.mp inSecond
  rw [found] at found'
  cases found'
  exact apart (sort.symm.trans sort')

/-! ## The partition -/

/-- The paths of two snapshots. -/
def trackedPaths (previous : Option Snapshot) (current : Snapshot) : Finset String :=
  (filesOf previous).keys.toFinset ∪ current.files.keys.toFinset

/-- The paths of a change set. -/
def changedPaths (changes : ChangeSet) : List String :=
  changes.added.map FileRecord.path ++ changes.modified.map FileRecord.path ++ changes.deleted

/-- A change set tells of every path of two snapshots what happened to it. -/
structure Partition (previous : Option Snapshot) (current : Snapshot) (changes : ChangeSet) :
    Prop where
  added_iff : ∀ path, path ∈ changes.added.map FileRecord.path ↔
    path ∉ filesOf previous ∧ path ∈ current.files
  modified_iff : ∀ path, path ∈ changes.modified.map FileRecord.path ↔
    ∃ old new, (filesOf previous)[path]? = some old ∧ current.files[path]? = some new ∧
      old.Differ new
  deleted_iff : ∀ path, path ∈ changes.deleted ↔ path ∈ filesOf previous ∧ path ∉ current.files
  added_ordered : (changes.added.map FileRecord.path).Pairwise (· < ·)
  modified_ordered : (changes.modified.map FileRecord.path).Pairwise (· < ·)
  deleted_ordered : changes.deleted.Pairwise (· < ·)
  /-- No path is listed twice, and as many further paths as are counted make up the rest. -/
  covers : ∃ unchanged : List String, unchanged.length = changes.unchanged ∧
    (changedPaths changes ++ unchanged).Nodup ∧
    (changedPaths changes ++ unchanged).toFinset = trackedPaths previous current
  size_eq : changes.size + changes.unchanged = (trackedPaths previous current).card

/-- Paths in strictly rising order repeat nothing. -/
theorem nodup_of_ordered {paths : List String} (ordered : paths.Pairwise (· < ·)) :
    paths.Nodup := by
  refine ordered.imp fun {first second} below same => ?_
  subst same
  exact String.lt_irrefl first below

/-- Added are the paths that were not tracked before. -/
theorem classify_eq_added_iff {before : FileMap FileRecord} :
    classify before path record = .added ↔ path ∉ before := by
  rw [classify, Std.ExtTreeMap.mem_iff_isSome_getElem?]
  split
  · next absent => simp [absent]
  · next old found => split <;> simp [found]

/-- Modified are the paths whose earlier record differs. -/
theorem classify_eq_modified_iff {before : FileMap FileRecord} (timedBefore : Timed before)
    (timed : 0 ≤ record.modified ∧ record.modified < Word64.half) :
    classify before path record = .modified ↔
      ∃ old, before[path]? = some old ∧ old.Differ record := by
  rw [classify]
  split
  · next absent => simp [absent]
  · next old found =>
    have changed := FileRecord.changedFrom_iff (timedBefore.modified_mem found) timed
    split
    · next sort => simp [found, changed.mp sort]
    · next sort => simp [found, mt changed.mpr sort]

/-- Tracked are the paths that have a record. -/
theorem mem_keys_iff (files : FileMap FileRecord) :
    path ∈ files ↔ ∃ record, files[path]? = some record := by
  rw [Std.ExtTreeMap.mem_iff_isSome_getElem?, Option.isSome_iff_exists]

/-- The added, modified and unchanged paths are the current ones. -/
theorem mem_current_iff (before : FileMap FileRecord) (current : Snapshot) (path : String) :
    path ∈ current.files ↔
      path ∈ (classed before current .added).map Prod.fst ∨
      path ∈ (classed before current .modified).map Prod.fst ∨
      path ∈ (classed before current .unchanged).map Prod.fst := by
  simp only [mem_keys_iff, mem_paths_classed]
  constructor
  · rintro ⟨record, found⟩
    cases sort : classify before path record with
    | added => exact .inl ⟨record, found, sort⟩
    | modified => exact .inr (.inl ⟨record, found, sort⟩)
    | unchanged => exact .inr (.inr ⟨record, found, sort⟩)
  · rintro (⟨record, found, -⟩ | ⟨record, found, -⟩ | ⟨record, found, -⟩) <;>
      exact ⟨record, found⟩

/-- The changed paths are the added, the modified and the deleted ones, in this order. -/
theorem changedPaths_diff (keyed : Keyed current.files) :
    changedPaths (diff previous current) =
      (classed (filesOf previous) current .added).map Prod.fst ++
        (classed (filesOf previous) current .modified).map Prod.fst ++
        (diff previous current).deleted := by
  rw [changedPaths]
  simp only [diff_eq, paths_classed keyed]

/-- The deleted paths come in strictly rising order. -/
theorem deleted_ordered_diff : (diff previous current).deleted.Pairwise (· < ·) := by
  rw [diff_eq]
  exact (FileMap.ordered_keys _).filter _

/-- The paths of a change set and the unchanged ones are those of the two snapshots, each once. -/
theorem covers_diff (previous : Option Snapshot) (keyed : Keyed current.files) :
    (changedPaths (diff previous current) ++
        (classed (filesOf previous) current .unchanged).map Prod.fst).Nodup ∧
      (changedPaths (diff previous current) ++
        (classed (filesOf previous) current .unchanged).map Prod.fst).toFinset =
          trackedPaths previous current := by
  have once : ∀ wanted, ((classed (filesOf previous) current wanted).map Prod.fst).Nodup :=
    fun wanted => nodup_of_ordered (ordered_classed _ wanted)
  -- A deleted path is in no class, since it is not tracked any more.
  have gone : ∀ wanted, List.Disjoint ((classed (filesOf previous) current wanted).map Prod.fst)
      (diff previous current).deleted := by
    intro wanted path listed deleted
    obtain ⟨record, found, -⟩ := mem_paths_classed.mp listed
    exact (mem_deleted_diff.mp deleted).2 ((mem_keys_iff _).mpr ⟨record, found⟩)
  rw [changedPaths_diff keyed]
  constructor
  · refine List.Nodup.append (List.Nodup.append (List.Nodup.append (once _) (once _) ?_)
      (nodup_of_ordered deleted_ordered_diff) ?_) (once _) ?_
    · exact disjoint_classed (by decide)
    · exact List.disjoint_append_left.mpr ⟨gone _, gone _⟩
    · refine List.disjoint_append_left.mpr ⟨List.disjoint_append_left.mpr ⟨?_, ?_⟩, (gone _).symm⟩
      · exact disjoint_classed (by decide)
      · exact disjoint_classed (by decide)
  · ext path
    simp only [trackedPaths, List.mem_toFinset, List.mem_append, Finset.mem_union,
      Std.ExtTreeMap.mem_keys, mem_current_iff (filesOf previous) current path, mem_deleted_diff]
    tauto

/-- A change set parts the paths of both snapshots. -/
theorem partition_diff (keyed : Keyed current.files) (timedPrevious : Timed (filesOf previous))
    (timed : Timed current.files) : Partition previous current (diff previous current) where
  added_iff path := by
    rw [diff_eq, paths_classed keyed, mem_paths_classed]
    simp only [classify_eq_added_iff, mem_keys_iff current.files]
    tauto
  modified_iff path := by
    rw [diff_eq, paths_classed keyed, mem_paths_classed]
    constructor
    · rintro ⟨new, found, sort⟩
      obtain ⟨old, before, differ⟩ :=
        (classify_eq_modified_iff timedPrevious (timed.modified_mem found)).mp sort
      exact ⟨old, new, before, found, differ⟩
    · rintro ⟨old, new, before, found, differ⟩
      exact ⟨new, found, (classify_eq_modified_iff timedPrevious
        (timed.modified_mem found)).mpr ⟨old, before, differ⟩⟩
  deleted_iff path := mem_deleted_diff
  added_ordered := by
    rw [diff_eq, paths_classed keyed]
    exact ordered_classed _ _
  modified_ordered := by
    rw [diff_eq, paths_classed keyed]
    exact ordered_classed _ _
  deleted_ordered := deleted_ordered_diff
  covers := by
    refine ⟨_, ?_, covers_diff previous keyed⟩
    rw [List.length_map, diff_eq]
  size_eq := by
    obtain ⟨once, union⟩ := covers_diff previous keyed
    rw [← union, List.toFinset_card_of_nodup once, List.length_append, changedPaths_diff keyed,
      diff_eq]
    simp [ChangeSet.size, Nat.add_assoc]

/-! ## The patch -/

/-- The files after a change set was applied to them. -/
def patched (files : FileMap FileRecord) (changes : ChangeSet) : FileMap FileRecord :=
  changes.upserted.foldl (fun (files : FileMap FileRecord) record => files.insert record.path record)
    (changes.deleted.foldl (fun (files : FileMap FileRecord) path => files.erase path) files)

/-- A patched snapshot has what was put in, and of the rest what was not deleted. -/
theorem getElem?_patched (files : FileMap FileRecord) (changes : ChangeSet) (path : String) :
    (patched files changes)[path]? =
      (lastFor FileRecord.path changes.upserted path).or
        (if path ∈ changes.deleted then none else files[path]?) := by
  have inserted := FileMap.getElem?_foldl_insert FileRecord.path id changes.upserted
    (changes.deleted.foldl (fun (files : FileMap FileRecord) path => files.erase path) files) path
  rw [FileMap.getElem?_foldl_erase, Option.map_id] at inserted
  exact inserted

/-- The record that a change set brings for a path is the current one, where it brings one. -/
theorem lastFor_upserted_diff (keyed : Keyed current.files) (path : String) :
    lastFor FileRecord.path (diff previous current).upserted path =
      (current.files[path]?).filter fun record =>
        classify (filesOf previous) path record ≠ .unchanged := by
  refine Option.ext fun record => ?_
  have unique : ∀ first ∈ (diff previous current).upserted,
      ∀ second ∈ (diff previous current).upserted, first.path = second.path → first = second := by
    intro first firstMember second secondMember same
    have found := ((mem_upserted_diff keyed).mp firstMember).1
    rw [same, ((mem_upserted_diff keyed).mp secondMember).1] at found
    exact (Option.some.inj found).symm
  rw [lastFor_eq_some_iff unique, mem_upserted_diff keyed, Option.filter_eq_some_iff,
    decide_eq_true_iff]
  constructor
  · rintro ⟨listed, rfl⟩
    exact listed
  · rintro ⟨found, changed⟩
    have same := keyed.path_eq found
    subst same
    exact ⟨⟨found, changed⟩, rfl⟩

/-- After the change set was applied the current paths are tracked, and each added or modified path
has its current record. -/
theorem patched_diff (previous : Option Snapshot) (keyed : Keyed current.files) :
    (∀ path, path ∈ patched (filesOf previous) (diff previous current) ↔ path ∈ current.files) ∧
      ∀ record ∈ (diff previous current).upserted,
        (patched (filesOf previous) (diff previous current))[record.path]? =
          current.files[record.path]? := by
  constructor
  · intro path
    rw [Std.ExtTreeMap.mem_iff_isSome_getElem?, getElem?_patched, lastFor_upserted_diff keyed,
      Std.ExtTreeMap.mem_iff_isSome_getElem?]
    cases tracked : current.files[path]? with
    | none =>
      have absent : path ∉ current.files := by simpa using tracked
      by_cases before : path ∈ filesOf previous
      · simp [mem_deleted_diff.mpr ⟨before, absent⟩]
      · simp [Std.ExtTreeMap.getElem?_eq_none before]
    | some record =>
      have kept : path ∉ (diff previous current).deleted := fun deleted =>
        (mem_deleted_diff.mp deleted).2 ((mem_keys_iff _).mpr ⟨record, tracked⟩)
      by_cases sort : classify (filesOf previous) path record = .unchanged
      · -- An unchanged path is tracked in both snapshots.
        have before : path ∈ filesOf previous := by
          by_contra absent
          rw [classify_eq_added_iff.mpr absent] at sort
          cases sort
        rw [Std.ExtTreeMap.mem_iff_isSome_getElem?] at before
        simp [sort, kept, Option.filter_some, before]
      · simp [sort, Option.filter_some]
  · intro record member
    obtain ⟨tracked, changed⟩ := (mem_upserted_diff keyed).mp member
    rw [getElem?_patched, lastFor_upserted_diff keyed, tracked]
    simp [changed, Option.filter_some]

/-- A snapshot has no changes against itself. -/
theorem diff_self (snapshot : Snapshot) :
    diff (some snapshot) snapshot = { unchanged := snapshot.fileCount } := by
  have unchanged : ∀ entry ∈ snapshot.files.toList,
      classify snapshot.files entry.1 entry.2 = .unchanged := fun entry member =>
    classify_of_same (Std.ExtTreeMap.mem_toList_iff_getElem?_eq_some.mp member)
  have others : ∀ wanted, wanted ≠ .unchanged → classed snapshot.files snapshot wanted = [] := by
    intro wanted apart
    rw [classed, List.filter_eq_nil_iff]
    intro entry member
    rw [unchanged entry member]
    simpa using Ne.symm apart
  have all : classed snapshot.files snapshot .unchanged = snapshot.files.toList :=
    List.filter_eq_self.mpr fun entry member => by simp [unchanged entry member]
  rw [diff_eq]
  simp only [filesOf, others .added (by decide), others .modified (by decide), all, fileCount,
    Std.ExtTreeMap.length_toList, List.map_nil]
  congr
  rw [List.filter_eq_nil_iff]
  intro path member
  simpa using member

/-- The change set of two snapshots tells of each of their paths what happened to it, and only
once; applied to the earlier files it gives the current paths with the added and modified records;
and it is empty between a snapshot and itself. -/
theorem diff_partitions (previous : Option Snapshot) (current : Snapshot)
    (keyed : Keyed current.files) (timedPrevious : Timed (filesOf previous))
    (timed : Timed current.files) :
    Partition previous current (diff previous current) ∧
      (∀ path, path ∈ patched (filesOf previous) (diff previous current) ↔
        path ∈ current.files) ∧
      (∀ record ∈ (diff previous current).upserted,
        (patched (filesOf previous) (diff previous current))[record.path]? =
          current.files[record.path]?) ∧
      (diff (some current) current).isEmpty = true ∧
      (diff (some current) current).unchanged = current.fileCount := by
  obtain ⟨paths, records⟩ := patched_diff previous keyed
  refine ⟨partition_diff keyed timedPrevious timed, paths, records, ?_, ?_⟩
  · rw [diff_self]
    rfl
  · rw [diff_self]

/-! ## A change set with every kind of change -/

/-- The snapshot of some records. -/
def ofRecords (records : List FileRecord) : Snapshot :=
  .ofFiles "/p" 0 (Std.ExtTreeMap.ofList (records.map fun record => (record.path, record)) compare)
    []

/-- A snapshot of records finds a listed record, under its own path. -/
theorem mem_of_ofRecords {records : List FileRecord}
    (found : (ofRecords records).files[path]? = some record) :
    record ∈ records ∧ record.path = path := by
  rw [ofRecords, ofFiles, FileMap.getElem?_ofList, lastFor] at found
  exact ⟨List.mem_reverse.mp (List.mem_of_find?_eq_some found), by simpa using List.find?_some found⟩

/-- The files of a snapshot have the times of its records. -/
theorem timed_ofRecords {records : List FileRecord}
    (timed : ∀ record ∈ records, 0 ≤ record.modified ∧ record.modified < Word64.half) :
    Timed (ofRecords records).files where
  modified_mem found := timed _ (mem_of_ofRecords found).1

/-- A file is resized, one is removed, one keeps its digest, one has a digest no longer and a time
stamp of more than a second later. -/
def beforeEdits : Snapshot := ofRecords
  [⟨"a", "/p/a", 1, 0, some "00"⟩, ⟨"b", "/p/b", 1, 0, none⟩, ⟨"c", "/p/c", 1, 0, some "00"⟩,
    ⟨"d", "/p/d", 1, 0, some "00"⟩]

/-- The same files after the edits, and a new one. -/
def afterFileEdits : Snapshot := ofRecords
  [⟨"a", "/p/a", 2, 0, some "00"⟩, ⟨"c", "/p/c", 1, 5000, some "00"⟩, ⟨"d", "/p/d", 1, 1001, none⟩,
    ⟨"e", "/p/e", 1, 0, none⟩]

/-- The change set between them is a partition of the five paths. -/
theorem edits_partitioned :
    (diff (some beforeEdits) afterFileEdits).added.map FileRecord.path = ["e"] ∧
      (diff (some beforeEdits) afterFileEdits).modified.map FileRecord.path = ["a", "d"] ∧
      (diff (some beforeEdits) afterFileEdits).deleted = ["b"] ∧
      Partition (some beforeEdits) afterFileEdits (diff (some beforeEdits) afterFileEdits) := by
  have keyed : Keyed afterFileEdits.files := ⟨fun found => (mem_of_ofRecords found).2⟩
  have timedBefore : Timed (filesOf (some beforeEdits)) := timed_ofRecords (by decide)
  have timed : Timed afterFileEdits.files := timed_ofRecords (by decide)
  exact ⟨by decide +kernel, by decide +kernel, by decide +kernel,
    (diff_partitions (some beforeEdits) afterFileEdits keyed timedBefore timed).1⟩

end Snapshot

end SourceAtlas
