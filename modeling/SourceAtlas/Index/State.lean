import SourceAtlas.Embedding.Cache
import SourceAtlas.Index.Failure
import SourceAtlas.Snapshot.Diff

/-!
# The published state of an index

Everything a query reads is one value, replaced as a whole when a pass ends.
-/

namespace SourceAtlas

/-- The numbers of a change set. -/
structure ChangeCounts where
  added : Nat := 0
  modified : Nat := 0
  deleted : Nat := 0
  unchanged : Nat := 0
  deriving DecidableEq, Repr

/-- The numbers of a change set. -/
def ChangeSet.counts (changes : ChangeSet) : ChangeCounts where
  added := changes.added.length
  modified := changes.modified.length
  deleted := changes.deleted.length
  unchanged := changes.unchanged

/-- The figures of a pass. -/
structure PassStats where
  totalSymbols : Nat := 0
  /-- Files with a node in the graph. -/
  filesIndexed : Nat := 0
  /-- Files that could not be read or parsed. -/
  filesSkipped : Nat := 0
  /-- Memory charged for symbols and vectors, in units of 1024 * 1024 bytes. -/
  megabytes : Float := 0.0
  /-- When the pass ran, in milliseconds. -/
  lastUpdated : Int := 0
  embeddingsGenerated : Nat := 0
  embeddingsFailed : Nat := 0
  symbolsEvicted : Nat := 0
  changes : ChangeCounts := {}
  /-- Whether the pass started from published contents. -/
  incremental : Bool := false
  /-- How long the pass took, in milliseconds. -/
  duration : Nat := 0

/-- Bytes in units of 1024 * 1024. -/
def megabytesOf (bytes : Nat) : Float := bytes.toUInt64.toFloat / (1024.0 * 1024.0)

/-- Everything a query reads. -/
structure IndexState where
  snapshot : Option Snapshot := none
  symbols : SymbolTable := {}
  graph : ImportGraph := {}
  embeddings : EmbeddingCache := {}
  stats : PassStats := {}
  /-- The failures of the pass that made this state, when there was one. -/
  failures : Option FailureReport := none

namespace IndexState

/-- The state before the first pass. -/
def empty : IndexState := {}

/-- The memory charged for symbols and vectors, in bytes. -/
def memoryBytes (state : IndexState) : Nat := state.embeddings.estimatedBytes state.symbols

/-- The figures of the last pass, with symbols and memory as they are now. -/
def currentStats (state : IndexState) : PassStats :=
  { state.stats with
    totalSymbols := state.symbols.size
    megabytes := megabytesOf state.memoryBytes }

end IndexState

end SourceAtlas
