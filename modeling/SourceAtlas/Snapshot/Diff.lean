import SourceAtlas.Number.Word
import SourceAtlas.Snapshot.Basic

/-!
# Change sets

The difference of two snapshots. A change of size decides at once; two digests
settle the question on their own; only when one is missing are the time stamps
compared, within a tolerance.
-/

namespace SourceAtlas

/-- Time stamps this close, in milliseconds, count as equal. -/
def timeTolerance : Int := 1000

/-- What changed between two snapshots. -/
structure ChangeSet where
  added : List FileRecord := []
  modified : List FileRecord := []
  deleted : List String := []
  /-- The number of paths in both snapshots without a change. -/
  unchanged : Nat := 0
  deriving DecidableEq, Repr

namespace ChangeSet

/-- Nothing changed. -/
def isEmpty (changes : ChangeSet) : Bool :=
  changes.added.isEmpty && changes.modified.isEmpty && changes.deleted.isEmpty

/-- The number of changed paths. -/
def size (changes : ChangeSet) : Nat :=
  changes.added.length + changes.modified.length + changes.deleted.length

/-- The records to read: added ones, then modified ones. -/
def upserted (changes : ChangeSet) : List FileRecord := changes.added ++ changes.modified

end ChangeSet

/-- The difference of two 64-bit time stamps, which wraps around. -/
def timeDelta (old new : Int) : Int := Int.bmod (old - new) Word64.count

/-- Whether two time stamps are further apart than the tolerance. The one difference without a
positive counterpart counts as none. -/
def timesDiffer (old new : Int) : Bool :=
  let delta := timeDelta old new
  timeTolerance < delta || (delta < -timeTolerance && delta ≠ -(Word64.half : Int))

/-- Whether a record describes other contents than an earlier one of the same path. -/
def FileRecord.changedFrom (new old : FileRecord) : Bool :=
  if old.size ≠ new.size then true
  else
    match old.checksum, new.checksum with
    | some before, some after => before ≠ after
    | _, _ => timesDiffer old.modified new.modified

/-- What happened to a file of the current snapshot. -/
inductive FileChange where
  | added
  | modified
  | unchanged
  deriving DecidableEq, Repr

namespace Snapshot

/-- Classify a current record against the previous files. -/
def classify (previous : FileMap FileRecord) (path : String) (record : FileRecord) : FileChange :=
  match previous[path]? with
  | none => .added
  | some old => if record.changedFrom old then .modified else .unchanged

/-- The changes from an optional previous snapshot to the current one, each list in path order. -/
def diff (previous : Option Snapshot) (current : Snapshot) : ChangeSet :=
  match previous with
  | none => { added := current.files.values }
  | some previous =>
    let ofClass := fun wanted => current.files.toList.filter fun entry =>
      classify previous.files entry.1 entry.2 = wanted
    { added := (ofClass .added).map Prod.snd
      modified := (ofClass .modified).map Prod.snd
      deleted := previous.files.keys.filter fun path => !current.files.contains path
      unchanged := (ofClass .unchanged).length }

end Snapshot

end SourceAtlas
