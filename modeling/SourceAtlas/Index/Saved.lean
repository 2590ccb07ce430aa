import SourceAtlas.Index.State

/-!
# Saved indexes

A saved index holds lists only: the look-up maps, the check for orphans and the
dimension of the vectors come back when the lists are put in again. Skipped
entries and failures are not saved.
-/

namespace SourceAtlas

/-- What is kept of an index between runs. -/
structure SavedIndex where
  snapshot : Option Snapshot
  /-- In the order of the identifiers. -/
  symbols : List Symbol
  symbolsUpdated : Int
  graph : ImportGraph
  /-- In the order of the identifiers. -/
  embeddings : List CacheEntry
  stats : PassStats

namespace SavedIndex

/-- The version of the format; other versions are not read. -/
def version : Nat := 1

/-- What is kept of a state. -/
def ofState (state : IndexState) : SavedIndex where
  snapshot := state.snapshot.map fun snapshot => { snapshot with skipped := [] }
  symbols := state.symbols.toList
  symbolsUpdated := state.symbols.lastUpdated
  graph := state.graph
  embeddings := state.embeddings.toList
  stats := state.stats

/-- The state that a saved index stands for. -/
def toState (saved : SavedIndex) : IndexState :=
  let symbols := SymbolTable.ofSymbols saved.symbols saved.symbolsUpdated
  { snapshot := saved.snapshot
    symbols
    graph := saved.graph
    embeddings := EmbeddingCache.ofStored symbols saved.embeddings
    stats := saved.stats }

end SavedIndex

end SourceAtlas
