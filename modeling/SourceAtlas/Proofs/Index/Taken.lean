import SourceAtlas.Proofs.Index.Pairing
import SourceAtlas.Proofs.Snapshot.Partition

/-!
# The snapshot that a request takes

A build captures the tree. An update records the keys of the paths it is given
and leaves all other records alone. A request succeeds exactly when it gets that
far, and then finishes the pass over its snapshot (`Takes`). Whatever record is
new or changed there stands under its own path, so no pass parses a path twice.
-/

namespace SourceAtlas

namespace Snapshot

variable {previous : Option Snapshot} {current : Snapshot}

/-- The records that are new or changed stand under their own paths. -/
def Fresh (previous : Option Snapshot) (current : Snapshot) : Prop :=
  ∀ (path : String) (record : FileRecord), current.files[path]? = some record →
    classify (filesOf previous) path record ≠ .unchanged → record.path = path

/-- A keyed snapshot is fresh after any other. -/
theorem fresh_of_keyed (keyed : Keyed current.files) (previous : Option Snapshot) :
    Fresh previous current := fun _ _ found _ => keyed.path_eq found

/-- Changed records carry the paths they are listed under. -/
theorem Fresh.paths_classed (fresh : Fresh previous current) {wanted : FileChange}
    (changed : wanted ≠ .unchanged) :
    ((classed (filesOf previous) current wanted).map Prod.snd).map FileRecord.path =
      (classed (filesOf previous) current wanted).map Prod.fst := by
  rw [List.map_map]
  refine List.map_congr_left fun entry member => ?_
  obtain ⟨found, sort⟩ := mem_classed.mp member
  exact fresh entry.1 entry.2 found (sort ▸ changed)

/-- What is put in by a change set is tracked. -/
theorem Fresh.mem_files (fresh : Fresh previous current) {record : FileRecord}
    (upserted : record ∈ (diff previous current).upserted) : record.path ∈ current.files := by
  obtain ⟨path, found, changed⟩ : ∃ path : String, current.files[path]? = some record ∧
      classify (filesOf previous) path record ≠ .unchanged := by
    rcases List.mem_append.mp upserted with added | modified
    · obtain ⟨path, found, sort⟩ := mem_added_diff.mp added
      exact ⟨path, found, by simp [sort]⟩
    · obtain ⟨path, found, sort⟩ := mem_modified_diff.mp modified
      exact ⟨path, found, by simp [sort]⟩
  rw [fresh path record found changed, Std.ExtTreeMap.mem_iff_isSome_getElem?, found]
  rfl

/-- No path is put in twice by a change set. -/
theorem Fresh.nodup_upserted (fresh : Fresh previous current) :
    ((diff previous current).upserted.map FileRecord.path).Nodup := by
  rw [ChangeSet.upserted, diff_eq, List.map_append, fresh.paths_classed (by decide),
    fresh.paths_classed (by decide)]
  exact List.Nodup.append (nodup_of_ordered (ordered_classed _ _))
    (nodup_of_ordered (ordered_classed _ _)) (disjoint_classed (by decide))

end Snapshot

namespace Index

variable {σ : Type} {index : Index σ} {files : FileSystem} {path : String}

/-- The keys of the paths that an update is given, each once. -/
def keysOf (index : Index σ) (files : FileSystem) (paths : List String) : List String :=
  (Std.ExtTreeSet.ofList (paths.filterMap (index.keyOf? files)) compare : FileSet).toList

/-- The keys of some paths are those that a path among them leads to. -/
theorem mem_keysOf {paths : List String} :
    path ∈ index.keysOf files paths ↔ ∃ given ∈ paths, index.keyOf? files given = some path := by
  simp [keysOf]

/-- A recorded key has the record of its file as it is now; every other path has the one it had. -/
theorem getElem?_recordKeys {keys : List String} {records after : FileMap FileRecord}
    (recorded : index.recordKeys files keys records = .ok after) (path : String) :
    (path ∉ keys → after[path]? = records[path]?) ∧
      (path ∈ keys →
        Snapshot.recordFile? files index.root path index.captureOptions = .ok after[path]?) := by
  induction keys generalizing records with
  | nil =>
    cases recorded
    exact ⟨fun _ => rfl, fun member => by cases member⟩
  | cons key rest inductionHypothesis =>
    obtain ⟨record?, found, recorded⟩ := bind_eq_ok_iff.mp recorded
    -- The first key is put in place of its record, and the rest is recorded over that.
    have step : ∃ next : FileMap FileRecord, index.recordKeys files rest next = .ok after ∧
        next[key]? = record? ∧ (path ≠ key → next[path]? = records[path]?) := by
      cases record? with
      | none =>
        refine ⟨_, recorded, by simp, fun apart => ?_⟩
        rw [Std.ExtTreeMap.getElem?_erase, if_neg (by simpa using Ne.symm apart)]
      | some record =>
        refine ⟨_, recorded, by simp, fun apart => ?_⟩
        rw [Std.ExtTreeMap.getElem?_insert, if_neg (by simpa using Ne.symm apart)]
    obtain ⟨next, later, first, others⟩ := step
    obtain ⟨kept, anew⟩ := inductionHypothesis later
    constructor
    · intro absent
      rw [List.mem_cons, not_or] at absent
      obtain ⟨apart, absent⟩ := absent
      rw [kept absent, others apart]
    · intro member
      by_cases again : path ∈ rest
      · exact anew again
      · obtain rfl := (List.mem_cons.mp member).resolve_right again
        rw [kept again, first, found]

end Index

namespace Visit

variable {σ : Type} {visit : Visit σ} {index : Index σ} {snapshot : Snapshot} {stats : PassStats}

/-- The snapshot that a request takes when nothing stops it. -/
inductive Takes (visit : Visit σ) (index : Index σ) (snapshot : Snapshot) : Prop where
  | capture {options : BuildOptions} (request : visit.request = .build options)
      (goes : options.cancelled = false)
      (captured : Snapshot.capture visit.workspace.files index.root index.captureOptions visit.now =
        .ok snapshot)
  | records {paths : List String} {previous : Snapshot} {records : FileMap FileRecord}
      (request : visit.request = .update paths) (ready : index.phase = .ready)
      (taken : index.published.snapshot = some previous)
      (recorded : index.recordKeys visit.workspace.files
        (index.keysOf visit.workspace.files paths) previous.files = .ok records)
      (same : snapshot = .ofFiles index.root visit.now records [])

/-- What is told of a request before its pass. -/
def firstEvents (visit : Visit σ) : List ProgressEvent :=
  match visit.request with
  | .build _ => [{ step := .scanning }]
  | .update _ => []

/-- A request that took its snapshot finishes with the pass over it. -/
theorem Takes.outcome_eq (takes : visit.Takes index snapshot) :
    visit.outcome index =
      (index.announce (.indexing (visit.isIncremental index))).finish visit.workspace
        (visit.made index snapshot) visit.firstEvents := by
  obtain ⟨request, workspace, now⟩ := visit
  cases takes with
  | capture request goes captured =>
    obtain rfl := request
    simp only [outcome, Index.build, captured, goes]
    rfl
  | records request ready taken recorded same =>
    obtain rfl := request
    obtain rfl := same
    simp only [outcome, Index.update, ready, taken]
    rw [Index.keysOf] at recorded
    simp only [recorded, made, base, isIncremental, if_true, taken, firstEvents]

/-- A request that succeeds took a snapshot. -/
theorem takes_of_ok (succeeds : (visit.outcome index).result = .ok stats) :
    ∃ snapshot, visit.Takes index snapshot := by
  obtain ⟨request, workspace, now⟩ := visit
  cases request with
  | build options =>
    simp only [outcome, Index.build] at succeeds
    split at succeeds
    · cases succeeds
    · next snapshot captured =>
      split at succeeds
      · cases succeeds
      · next goes => exact ⟨snapshot, .capture rfl (by simpa using goes) captured⟩
  | update paths =>
    simp only [outcome, Index.update] at succeeds
    split at succeeds
    · next previous ready taken =>
      split at succeeds
      · cases succeeds
      · next records recorded => exact ⟨_, .records rfl ready taken recorded rfl⟩
    · cases succeeds

/-- What a request publishes and answers that took this snapshot. -/
theorem Takes.published (takes : visit.Takes index snapshot) :
    (visit.outcome index).index.published = (visit.made index snapshot).state ∧
      (visit.outcome index).result = .ok (visit.made index snapshot).state.stats := by
  rw [takes.outcome_eq]
  exact ⟨rfl, rfl⟩

/-- A taken snapshot is keyed if the one before it was. -/
theorem Takes.keyed (takes : visit.Takes index snapshot)
    (keyed : Keyed (Snapshot.filesOf index.published.snapshot)) : Keyed snapshot.files := by
  cases takes with
  | capture _ _ captured => exact Snapshot.keyed_capture captured
  | records _ _ taken recorded same =>
    rw [taken] at keyed
    rw [same]
    exact keyed_recordKeys keyed recorded

/-- An update starts from what is published. -/
theorem base_of_update {paths : List String} (request : visit.request = .update paths) :
    visit.base index = index.published := by
  rw [base, isIncremental, request]
  exact if_pos rfl

/-- A taken snapshot is fresh after the one it is compared with. -/
theorem Takes.fresh (takes : visit.Takes index snapshot) :
    Snapshot.Fresh (visit.base index).snapshot snapshot := by
  cases takes with
  | capture _ _ captured => exact Snapshot.fresh_of_keyed (Snapshot.keyed_capture captured) _
  | @records paths previous records request ready taken recorded same =>
    rw [base_of_update request, taken, same]
    intro path record found changed
    obtain ⟨kept, anew⟩ := Index.getElem?_recordKeys recorded path
    by_cases member : path ∈ index.keysOf visit.workspace.files paths
    · have recordedNow := anew member
      rw [show records[path]? = _ from found] at recordedNow
      exact Snapshot.path_recordFile? recordedNow
    · -- A path that was not recorded has the record it had, which is no change.
      have same : previous.files[path]? = some _ := (kept member).symm.trans found
      exact absurd (Snapshot.classify_of_same same) changed

end Visit

end SourceAtlas
