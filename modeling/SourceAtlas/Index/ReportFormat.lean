import SourceAtlas.Error
import SourceAtlas.Index.Failure
import SourceAtlas.Json.Value
import SourceAtlas.Snapshot.Basic

/-!
# The JSON form of index reports

Other tools read phases, failures and the figures of snapshots in this form.
-/

namespace SourceAtlas

/-- The written phase. -/
def IndexPhase.toJson : IndexPhase → JsonValue
  | .indexing incremental =>
    .object [("phase", .text "indexing"), ("incremental", .boolean incremental)]
  | phase => .object [("phase", .text phase.label)]

/-- The written failure. -/
def Failure.toJson (failure : Failure) : JsonValue :=
  .object [("path", .text failure.path), ("error", .text failure.reason),
    ("stage", .text failure.stage.label)]

/-- The written failures of a pass. -/
def FailureReport.toJson (report : FailureReport) : JsonValue :=
  .object [("total_errors", .ofNat report.total), ("summary", .text report.summary),
    ("by_stage", .object (report.byStage.map fun group =>
      (group.1.label, .array (group.2.map Failure.toJson))))]

/-- The written figures of a snapshot. -/
def SnapshotStats.toJson (stats : SnapshotStats) : JsonValue :=
  .object [("exists", .boolean stats.isTaken),
    ("captured_at_millis", .ofOption .integer stats.capturedAt),
    ("file_count", .ofNat stats.fileCount), ("total_size", .ofNat stats.totalSize),
    ("version_tag", .ofOption .text stats.versionTag)]

end SourceAtlas
