import SourceAtlas.Digest.Sha256
import SourceAtlas.Graph.Basic
import SourceAtlas.Number.Total
import SourceAtlas.Number.Word

/-!
# Snapshots of a source tree

A snapshot records, at one moment, the size, time stamp and digest of every
tracked file. Sizes and times are machine integers in the files they come
from; sums of sizes are taken modulo 2^64.
-/

namespace SourceAtlas

/-- What is known of one tracked file. -/
structure FileRecord where
  /-- The key of the file under the root. -/
  path : String
  absolutePath : String
  size : Nat
  /-- Modification time in milliseconds. -/
  modified : Int
  /-- Hexadecimal digest of the contents, when it was taken. -/
  checksum : Option String
  deriving DecidableEq, Repr, Inhabited

/-- An entry that a capture could not read. -/
structure SkippedEntry where
  path : String
  reason : String
  deriving DecidableEq, Repr

/-- The tracked files of a tree at one moment. -/
structure Snapshot where
  rootPath : String
  capturedAt : Int
  files : FileMap FileRecord
  /-- A short name for display. -/
  versionTag : String
  skipped : List SkippedEntry := []
  deriving DecidableEq

namespace Snapshot

/-- The sum of the sizes of the files of a map. -/
def sizeOf (files : FileMap FileRecord) : Nat :=
  total (files.values.map FileRecord.size) % Word64.count

/-- Eight hexadecimal digits that depend on the number of files, their size and the time. -/
def tagOf (files : FileMap FileRecord) (capturedAt : Int) : String :=
  let text := toString files.size ++ "-" ++ toString (sizeOf files) ++ "-" ++ toString capturedAt
  String.ofList ((Digest.Sha256.hex text.toUTF8).toList.take 8)

/-- The snapshot of the given files. -/
def ofFiles (rootPath : String) (capturedAt : Int) (files : FileMap FileRecord)
    (skipped : List SkippedEntry) : Snapshot where
  rootPath
  capturedAt
  files
  versionTag := tagOf files capturedAt
  skipped

/-- The number of tracked files. -/
def fileCount (snapshot : Snapshot) : Nat := snapshot.files.size

/-- The sum of all sizes. -/
def totalSize (snapshot : Snapshot) : Nat := sizeOf snapshot.files

/-- The record of a path. -/
def get? (snapshot : Snapshot) (path : String) : Option FileRecord := snapshot.files[path]?

/-- Whether a path is tracked. -/
def contains (snapshot : Snapshot) (path : String) : Bool := snapshot.files.contains path

end Snapshot

/-- The figures of a snapshot that may not exist yet. -/
structure SnapshotStats where
  isTaken : Bool
  capturedAt : Option Int
  fileCount : Nat
  totalSize : Nat
  versionTag : Option String
  deriving DecidableEq, Repr

/-- The figures of an optional snapshot. -/
def SnapshotStats.of : Option Snapshot → SnapshotStats
  | some snapshot =>
    { isTaken := true
      capturedAt := some snapshot.capturedAt
      fileCount := snapshot.fileCount
      totalSize := snapshot.totalSize
      versionTag := some snapshot.versionTag }
  | none =>
    { isTaken := false, capturedAt := none, fileCount := 0, totalSize := 0, versionTag := none }

end SourceAtlas
