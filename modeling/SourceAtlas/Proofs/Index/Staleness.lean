import SourceAtlas.Proofs.Index.Pairing
import SourceAtlas.Proofs.Snapshot.Partition
import SourceAtlas.Proofs.Snapshot.Walk

/-!
# How old the parsed version of a file can be

Without checksums a refresh compares the time stamp of a file with the one in
the capture just before, within a tolerance, and then keeps the new capture. So
a file whose time stamp moves a little from capture to capture is not parsed
again, however far it moves in all. What was parsed last is the record at the
beginning of the latest stretch of captures in which no two neighbours tell a
change (`LastNoticed`).
-/

namespace SourceAtlas

namespace Capture

variable {context : Context} {levels : List Level} {depth : Nat} {key : String} {node : FileNode}
  {record : FileRecord}

/-- A walk that takes no checksums records none. -/
theorem checksum_walkNode (unchecked : context.options.checksums = false)
    (found : record ∈ (walkNode context levels depth key node).records) :
    record.checksum = none := by
  induction node using FileNode.induction_on_entries generalizing levels depth key with
  | link target => cases found
  | file content modified =>
    rw [mem_walkNode_file, foundAt?] at found
    split at found
    · cases found
    · split at found
      · cases found
      · cases found
        simp [recordOf, isChecked, unchecked]
  | directory entries inductionHypothesis =>
    have path : (if key = "" then context.root else PathKey.below context.root key) =
        directoryPath context.root key := rfl
    rw [walkNode, path] at found
    split at found
    · cases found
    · split at found
      · cases found
      · obtain ⟨name, node, member, -, found⟩ := mem_walkEntries.mp found
        exact inductionHypothesis name node member found

end Capture

/-- The records of files have no checksums. -/
structure Unchecked (files : FileMap FileRecord) : Prop where
  checksum_eq : ∀ {path : String} {record : FileRecord}, files[path]? = some record →
    record.checksum = none

/-- A capture without checksums checks none of its files. -/
theorem Snapshot.unchecked_capture {system : FileSystem} {root : String}
    {options : CaptureOptions} {now : Int} {snapshot : Snapshot}
    (captured : capture system root options now = .ok snapshot)
    (unchecked : options.checksums = false) : Unchecked snapshot.files where
  checksum_eq {path record} found := by
    obtain ⟨context, entries, -, rfl, -, rfl⟩ := exists_walk_of_capture captured
    rw [ofFiles, FileMap.getElem?_ofList, lastFor] at found
    have member := List.mem_reverse.mp (List.mem_of_find?_eq_some found)
    exact Capture.checksum_walkNode unchecked member

/-- The tag of a capture follows from the rest of it. -/
theorem Snapshot.eq_ofFiles_of_capture {system : FileSystem} {root : String}
    {options : CaptureOptions} {now : Int} {snapshot : Snapshot}
    (captured : capture system root options now = .ok snapshot) :
    snapshot = ofFiles snapshot.rootPath now snapshot.files snapshot.skipped := by
  obtain ⟨context, entries, -, -, -, rfl⟩ := exists_walk_of_capture captured
  rfl

/-- Two records without checksums between which no change is seen: of one size, and at most a second
apart. -/
structure FileRecord.Alike (old new : FileRecord) : Prop where
  size : old.size = new.size
  time : (old.modified - new.modified).natAbs ≤ 1000

/-- Without a checksum records are alike exactly if they do not differ in size or time. -/
theorem FileRecord.alike_iff {old new : FileRecord} (unchecked : old.checksum = none) :
    old.Alike new ↔ ¬old.Differ new := by
  simp only [Differ, unchecked, reduceCtorEq, false_and, exists_false, false_or, true_or, true_and,
    not_or, not_not, not_lt]
  exact ⟨fun alike => ⟨alike.size, alike.time⟩, fun same => ⟨same.1, same.2⟩⟩

/-- Without checksums a path counts as unchanged when its records are alike. -/
theorem Snapshot.classify_eq_unchanged_iff {before after : FileMap FileRecord} {path : String}
    {new : FileRecord} (timedBefore : Timed before) (uncheckedBefore : Unchecked before)
    (timed : Timed after) (found : after[path]? = some new) :
    classify before path new = .unchanged ↔ ∃ old, before[path]? = some old ∧ old.Alike new := by
  rw [classify]
  split
  · next absent => simp [absent]
  · next old tracked =>
    have alike := @FileRecord.alike_iff old new (uncheckedBefore.checksum_eq tracked)
    rw [← FileRecord.changedFrom_iff (timedBefore.modified_mem tracked)
      (timed.modified_mem found)] at alike
    split
    · next changed => simp [tracked, alike, changed]
    · next same => simp [tracked, alike, same]

/-! ## Captures in a row -/

/-- The record of a path so many captures ago; the latest capture comes first. -/
def recordAt? (captures : List Snapshot) (path : String) (ago : Nat) : Option FileRecord :=
  (captures[ago]?).bind fun snapshot => snapshot.files[path]?

/-- A capture and the one before it have records of a path that are alike. -/
def Unnoticed (captures : List Snapshot) (path : String) (ago : Nat) : Prop :=
  ∃ old new, recordAt? captures path (ago + 1) = some old ∧
    recordAt? captures path ago = some new ∧ old.Alike new

/-- The latest capture that tells a change of a path, or brings it in, and its record there. -/
structure LastNoticed (captures : List Snapshot) (path : String) (ago : Nat)
    (record : FileRecord) : Prop where
  recorded : recordAt? captures path ago = some record
  noticed : ¬Unnoticed captures path ago
  unnoticed : ∀ since < ago, Unnoticed captures path since

variable {captures : List Snapshot} {path : String} {ago : Nat} {old new : FileRecord}
  {snapshot : Snapshot}

/-- No capture ago is the latest one. -/
theorem recordAt?_zero (captures : List Snapshot) (path : String) :
    recordAt? captures path 0 = (Snapshot.filesOf captures.head?)[path]? := by
  cases captures with
  | nil => simp [recordAt?, Snapshot.filesOf]
  | cons latest earlier => rfl

/-- A further capture tells no change when its record is alike the latest one. -/
theorem unnoticed_cons_zero (tracked : snapshot.files[path]? = some new) :
    Unnoticed (snapshot :: captures) path 0 ↔
      ∃ old, (Snapshot.filesOf captures.head?)[path]? = some old ∧ old.Alike new := by
  rw [← recordAt?_zero]
  constructor
  · rintro ⟨old, record, before, here, alike⟩
    rw [recordAt?_zero] at here
    cases tracked.symm.trans here
    exact ⟨old, before, alike⟩
  · rintro ⟨old, before, alike⟩
    exact ⟨old, new, before, tracked, alike⟩

/-- One more capture that tells no change. -/
theorem LastNoticed.later (last : LastNoticed captures path ago old)
    (unnoticed : Unnoticed (snapshot :: captures) path 0) :
    LastNoticed (snapshot :: captures) path (ago + 1) old where
  recorded := last.recorded
  noticed := last.noticed
  unnoticed since earlier := by
    cases since with
    | zero => exact unnoticed
    | succ since => exact last.unnoticed since (Nat.lt_of_succ_lt_succ earlier)

/-- Since a path was last noticed it kept its size and moved by a second a capture at most. -/
theorem LastNoticed.drift (last : LastNoticed captures path ago old)
    (tracked : recordAt? captures path 0 = some new) :
    old.size = new.size ∧ (old.modified - new.modified).natAbs ≤ 1000 * ago := by
  have upTo : ∀ since ≤ ago, ∃ earlier, recordAt? captures path since = some earlier ∧
      earlier.size = new.size ∧ (earlier.modified - new.modified).natAbs ≤ 1000 * since := by
    intro since
    induction since with
    | zero => exact fun _ => ⟨new, tracked, rfl, by simp⟩
    | succ since inductionHypothesis =>
      intro within
      obtain ⟨record, recorded, size, time⟩ := inductionHypothesis (by omega)
      obtain ⟨before, after, recordedBefore, recordedAfter, alike⟩ :=
        last.unnoticed since (by omega)
      rw [recorded] at recordedAfter
      cases recordedAfter
      have step := alike.time
      exact ⟨before, recordedBefore, alike.size.trans size, by omega⟩
  obtain ⟨record, recorded, size, time⟩ := upTo ago (Nat.le_refl ago)
  rw [last.recorded] at recorded
  cases recorded
  exact ⟨size, time⟩

/-! ## Runs of refreshes -/

namespace Visit

variable {σ : Type}

/-- A build without force. -/
def refresh (workspace : Workspace σ) (now : Int) : Visit σ where
  request := .build {}
  workspace
  now

/-- The record that the pass over a snapshot gives to the parser for a path, if any. -/
def handed? (visit : Visit σ) (index : Index σ) (snapshot : Snapshot) (path : String) :
    Option FileRecord :=
  lastFor FileRecord.path ((visit.context index).toParse (visit.changes index snapshot)) path

end Visit

namespace Index

variable {σ : Type} {start index : Index σ} {workspace : Workspace σ} {now : Int}
  {handed : String → Option FileRecord}

/-- Whether files of a path are parsed. -/
def parses (index : Index σ) (path : String) : Bool :=
  (index.context default false 0).isIndexable path

/-- The indexes that successful refreshes lead to, with the captures they took, the latest first,
and the record that was last given to the parser for each path. -/
inductive Refreshed (start : Index σ) :
    Index σ → List Snapshot → (String → Option FileRecord) → Prop where
  | start : Refreshed start start [] fun _ => none
  | refresh {index : Index σ} {captures : List Snapshot} {handed : String → Option FileRecord}
      {workspace : Workspace σ} {now : Int} {snapshot : Snapshot}
      (earlier : Refreshed start index captures handed)
      (captured : Snapshot.capture workspace.files index.root index.captureOptions now =
        .ok snapshot)
      (timed : Timed snapshot.files) :
      Refreshed start ((Visit.refresh workspace now).outcome index).index (snapshot :: captures)
        fun path => ((Visit.refresh workspace now).handed? index snapshot path).or (handed path)

/-- A refresh that takes a capture succeeds. -/
theorem outcome_refresh
    (captured : Snapshot.capture workspace.files index.root index.captureOptions now =
      .ok snapshot) :
    ((Visit.refresh workspace now).outcome index).result =
        .ok ((Visit.refresh workspace now).made index snapshot).state.stats ∧
      ((Visit.refresh workspace now).outcome index).index =
        { index with
          published := ((Visit.refresh workspace now).made index snapshot).state
          phase := .ready
          announcements := index.announcements + 2 } := by
  simp only [Visit.outcome, Visit.refresh, Index.build, captured]
  exact ⟨rfl, rfl⟩

/-- What a run of refreshes keeps up: the latest capture is the published one. -/
structure Follows (start index : Index σ) (captures : List Snapshot) : Prop where
  settings : index.settings = start.settings
  parser : index.parser = start.parser
  snapshot : index.published.snapshot = captures.head?
  ready : captures ≠ [] → index.phase = .ready
  unchecked : Unchecked (Snapshot.filesOf captures.head?)
  timed : Timed (Snapshot.filesOf captures.head?)

/-- A refresh follows its capture. -/
theorem Follows.refresh (follows : Follows start index captures)
    (captured : Snapshot.capture workspace.files index.root index.captureOptions now =
      .ok snapshot)
    (timed : Timed snapshot.files) (unchecked : start.settings.indexer.checksums = false) :
    Follows start ((Visit.refresh workspace now).outcome index).index (snapshot :: captures) := by
  have options : index.captureOptions.checksums = false := by
    rw [captureOptions, follows.settings]
    exact unchecked
  rw [(outcome_refresh captured).2]
  exact ⟨follows.settings, follows.parser, PassContext.snapshot_apply, fun _ => rfl,
    Snapshot.unchecked_capture captured options, timed⟩

/-- A refresh compares with the latest capture, the first one with nothing. -/
theorem Follows.filesOf_base (follows : Follows start index captures) :
    Snapshot.filesOf ((Visit.refresh workspace now).base index).snapshot =
      Snapshot.filesOf captures.head? := by
  rw [Visit.base]
  split
  · rw [follows.snapshot]
  · next full =>
    cases captures with
    | nil => rfl
    | cons latest earlier =>
      have ready := follows.ready (by simp)
      simp [Visit.isIncremental, Visit.refresh, ready, follows.snapshot] at full

/-- A refresh gives a current file that can be parsed to the parser exactly when a change is
noticed. -/
theorem Follows.handed?_eq (follows : Follows start index captures) (keyed : Keyed snapshot.files)
    (parses : start.parses path = true) (tracked : snapshot.files[path]? = some new)
    (workspace : Workspace σ) (now : Int) :
    (Visit.refresh workspace now).handed? index snapshot path =
      if Snapshot.classify (Snapshot.filesOf captures.head?) path new = .unchanged then none
      else some new := by
  have indexable : ((Visit.refresh workspace now).context index).isIndexable path = true := by
    rw [← parses, Index.parses, PassContext.isIndexable, PassContext.isIndexable]
    simp only [Visit.context, context, follows.settings, follows.parser]
  have filtered := lastFor_filter FileRecord.path
    ((Visit.refresh workspace now).context index).isIndexable
    ((Visit.refresh workspace now).changes index snapshot).upserted path
  rw [if_pos indexable] at filtered
  rw [Visit.handed?, PassContext.toParse, filtered, Visit.changes,
    Snapshot.lastFor_upserted_diff keyed, follows.filesOf_base, tracked, Option.filter_some]
  simp

section

variable {files : FileSystem} {root : String} {settings : Settings} {parser : FactParser}
  {provider : Option (Provider σ)}

/-- A created index follows no capture and has its settings. -/
theorem follows_create (created : create files root settings parser provider = .ok start) :
    Follows start start [] ∧ start.settings = settings := by
  rw [create] at created
  split at created
  · cases created
    have none : ∀ {path : String} {record : FileRecord},
        (Snapshot.filesOf none)[path]? ≠ some record := by simp [Snapshot.filesOf]
    exact ⟨⟨rfl, rfl, rfl, fun some => absurd rfl some, ⟨fun found => absurd found none⟩,
      ⟨fun found => absurd found none⟩⟩, rfl⟩
  · cases created

/-- A run of refreshes follows its captures. -/
theorem Refreshed.follows (created : create files root settings parser provider = .ok start)
    (unchecked : settings.indexer.checksums = false)
    (run : Refreshed start index captures handed) : Follows start index captures := by
  obtain ⟨follows, own⟩ := follows_create created
  induction run with
  | start => exact follows
  | refresh earlier captured timed inductionHypothesis =>
    exact inductionHypothesis.refresh captured timed (own ▸ unchecked)

/-- What the parser was given last for a file is its record where it was last noticed. -/
theorem Refreshed.handed_eq (created : create files root settings parser provider = .ok start)
    (unchecked : settings.indexer.checksums = false)
    (run : Refreshed start index captures handed) (parses : start.parses path = true)
    (tracked : recordAt? captures path 0 = some new) :
    ∃ ago old, LastNoticed captures path ago old ∧ handed path = some old := by
  induction run generalizing new with
  | start => cases tracked
  | @refresh index captures handed workspace now snapshot earlier captured timed
      inductionHypothesis =>
    have follows := earlier.follows created unchecked
    have current : snapshot.files[path]? = some new := tracked
    have given := follows.handed?_eq (Snapshot.keyed_capture captured) parses current workspace now
    have sort := Snapshot.classify_eq_unchanged_iff follows.timed follows.unchecked timed current
    rw [← unnoticed_cons_zero current] at sort
    by_cases unnoticed : Unnoticed (snapshot :: captures) path 0
    · -- The parser is given nothing, and the stretch without a noticed change grows.
      obtain ⟨before, -, recorded, -⟩ := id unnoticed
      obtain ⟨ago, old, last, parsed⟩ := inductionHypothesis recorded
      refine ⟨ago + 1, old, last.later unnoticed, ?_⟩
      dsimp only
      rw [given, if_pos (sort.mpr unnoticed), Option.none_or, parsed]
    · refine ⟨0, new, ⟨tracked, unnoticed, by simp⟩, ?_⟩
      dsimp only
      rw [given, if_neg (mt sort.mp unnoticed), Option.some_or]

/-- After every run of refreshes without checksums, what the parser was given last for a file is the
record in the capture that last told a change of it. It has the size of the current record, and its
time stamp is off by a second for each capture since, at most. So it is alike the current record
exactly when the time stamps at both ends of that stretch are at most a second apart, as they are
when the stretch is one capture long. -/
theorem Refreshed.handed_alike_iff
    (created : create files root settings parser provider = .ok start)
    (unchecked : settings.indexer.checksums = false)
    (run : Refreshed start index captures handed) (parses : start.parses path = true)
    (tracked : recordAt? captures path 0 = some new) :
    ∃ ago old, LastNoticed captures path ago old ∧ handed path = some old ∧
      old.size = new.size ∧ (old.modified - new.modified).natAbs ≤ 1000 * ago ∧
      ((∃ record, handed path = some record ∧ record.Alike new) ↔
        (old.modified - new.modified).natAbs ≤ 1000) := by
  obtain ⟨ago, old, last, parsed⟩ := run.handed_eq created unchecked parses tracked
  obtain ⟨size, time⟩ := last.drift tracked
  refine ⟨ago, old, last, parsed, size, time, ?_⟩
  rw [parsed]
  constructor
  · rintro ⟨record, same, alike⟩
    cases same
    exact alike.time
  · intro close
    exact ⟨old, rfl, size, close⟩

end

/-! ## A file that is edited and not parsed again -/

/-- What a capture of the edited project takes while the edits keep the size of the file. -/
def driftingCapture (modified now : Int) : Snapshot :=
  .ofFiles "/p" now
    (Snapshot.ofRecords
      [⟨"a.ts", "/p/a.ts", 1, modified, none⟩, ⟨"b.ts", "/p/b.ts", 1, 0, none⟩]).files []

/-- The workspace after an edit. -/
def driftingWorkspace (text : String) (modified : Int) : Workspace Unit where
  files := editedProject text modified
  provider := ()

/-- The build of the project, -/
def driftedOnce : Visit Unit := .refresh (driftingWorkspace "f" 0) 1

/-- the refresh after an edit within the tolerance, -/
def driftedTwice : Visit Unit := .refresh (driftingWorkspace "g" 1000) 2

/-- and the refresh after the file is touched within the tolerance again. -/
def driftedThrice : Visit Unit := .refresh (driftingWorkspace "g" 2000) 3

/-- The index before the last refresh, -/
def driftedIndex : Index Unit := (driftedTwice.outcome (driftedOnce.outcome wordIndex).index).index

/-- the captures of the three passes, -/
def driftingCaptures : List Snapshot :=
  [driftingCapture 2000 3, driftingCapture 1000 2, driftingCapture 0 1]

/-- and the records that they give to the parser. -/
def driftingHanded (path : String) : Option FileRecord :=
  (driftedThrice.handed? driftedIndex (driftingCapture 2000 3) path).or
    ((driftedTwice.handed? (driftedOnce.outcome wordIndex).index (driftingCapture 1000 2) path).or
      ((driftedOnce.handed? wordIndex (driftingCapture 0 1) path).or none))

/-- The capture of the drifting project, checked on what it holds. -/
theorem capture_drifting {text : String} {modified now : Int} {root : String}
    {options : CaptureOptions}
    (found : (Snapshot.capture (driftingWorkspace text modified).files root options now).toOption.map
        (fun snapshot => (snapshot.rootPath, snapshot.files, snapshot.skipped)) =
      some ("/p", (driftingCapture modified now).files, [])) :
    Snapshot.capture (driftingWorkspace text modified).files root options now =
      .ok (driftingCapture modified now) := by
  obtain ⟨snapshot, taken, same⟩ := Option.map_eq_some_iff.mp found
  have captured := eq_ok_of_toOption taken
  rw [captured]
  have shape := Snapshot.eq_ofFiles_of_capture captured
  simp only [Prod.mk.injEq] at same
  rw [shape, same.1, same.2.1, same.2.2]
  rfl

/-- The run of refreshes of the drifting project. -/
theorem refreshed_drifting :
    Refreshed wordIndex (driftedThrice.outcome driftedIndex).index driftingCaptures
      driftingHanded := by
  have once : Snapshot.capture (driftingWorkspace "f" 0).files wordIndex.root
      wordIndex.captureOptions 1 = .ok (driftingCapture 0 1) :=
    capture_drifting (by decide +kernel)
  have twice : Snapshot.capture (driftingWorkspace "g" 1000).files
      (driftedOnce.outcome wordIndex).index.root
      (driftedOnce.outcome wordIndex).index.captureOptions 2 = .ok (driftingCapture 1000 2) :=
    capture_drifting (by decide +kernel)
  have thrice : Snapshot.capture (driftingWorkspace "g" 2000).files driftedIndex.root
      driftedIndex.captureOptions 3 = .ok (driftingCapture 2000 3) :=
    capture_drifting (by decide +kernel)
  exact ((Refreshed.start.refresh once (Snapshot.timed_ofRecords (by decide))).refresh twice
    (Snapshot.timed_ofRecords (by decide))).refresh thrice (Snapshot.timed_ofRecords (by decide))

/-- The stretch of the run is two captures long. -/
theorem handed_drifting :
    ∃ ago old, LastNoticed driftingCaptures "a.ts" ago old ∧ driftingHanded "a.ts" = some old ∧
      old.size = 1 ∧ (old.modified - 2000).natAbs ≤ 1000 * ago ∧
      ((∃ record, driftingHanded "a.ts" = some record ∧
          record.Alike ⟨"a.ts", "/p/a.ts", 1, 2000, none⟩) ↔
        (old.modified - 2000).natAbs ≤ 1000) := by
  have tracked : recordAt? driftingCaptures "a.ts" 0 =
      some ⟨"a.ts", "/p/a.ts", 1, 2000, none⟩ := by decide +kernel
  exact Refreshed.handed_alike_iff create_wordIndex rfl refreshed_drifting (by decide) tracked

/-- The text has changed and the time stamp has moved by two seconds since the file was parsed, and
the index still has the symbol of the text before. -/
theorem exists_refreshed_not_alike :
    ∃ index captures handed new, Refreshed wordIndex index captures handed ∧
      wordIndex.parses "a.ts" = true ∧ recordAt? captures "a.ts" 0 = some new ∧
      (∀ record, handed "a.ts" = some record → ¬record.Alike new) ∧
      (index.published.symbols.inFile "a.ts").map Symbol.name = ["f"] := by
  refine ⟨_, _, _, ⟨"a.ts", "/p/a.ts", 1, 2000, none⟩, refreshed_drifting, by decide,
    by decide +kernel, ?_, by decide +kernel⟩
  have handed : driftingHanded "a.ts" = some ⟨"a.ts", "/p/a.ts", 1, 0, none⟩ := by decide +kernel
  intro record given alike
  cases handed.symm.trans given
  exact absurd alike.time (by decide)

end Index

end SourceAtlas
