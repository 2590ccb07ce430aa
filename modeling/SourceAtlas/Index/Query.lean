import SourceAtlas.Graph.Report
import SourceAtlas.Index.Basic
import SourceAtlas.Number.Word
import SourceAtlas.Symbol.Usage

/-!
# Queries

Queries are answered from the published state. All but the figures need a
phase in which contents are published.
-/

namespace SourceAtlas

/-- A hit of a semantic search. -/
structure SearchResult where
  symbol : Symbol
  similarity : Float32
  /-- The hit in words. -/
  explanation : String

/-- A similarity in percent, halves rounded away from zero. -/
def percentOf (similarity : Float32) : Int := (similarity * 100.0).round.toInt64.toInt

/-- A hit with its explanation. -/
def SearchResult.ofHit (query : String) (hit : SemanticHit) : SearchResult where
  symbol := hit.symbol
  similarity := hit.similarity
  explanation :=
    toString (percentOf hit.similarity) ++ "% match: " ++ hit.symbol.kind.label ++ " \"" ++
      hit.symbol.name ++ "\" - likely relevant to \"" ++ query ++ "\""

namespace Index

variable {σ : Type}

/-- The published state, for an operation that needs one. -/
def readyState (index : Index σ) (operation : String) : Except IndexError IndexState :=
  if index.phase.isQueryable then .ok index.published
  else .error (.notReady operation index.phase)

/-- Count a search. -/
def countSearch (workspace : Workspace σ) : Workspace σ :=
  { workspace with
    metrics :=
      { workspace.metrics with searchRequests := workspace.metrics.searchRequests + 1 } }

/-- Whether embedding a query takes too long. -/
def timesOut (index : Index σ) (provider : Provider σ) : Bool :=
  match provider.queryDelay with
  | some delay => index.settings.embeddings.queryTimeout ≤ delay
  | none => false

/-- The vector of a query, within the time allowed. -/
def queryVector (index : Index σ) (provider : Provider σ) (query : String) (state : σ) :
    Except IndexError Embedding × σ :=
  let (answer, state) := provider.embedQuery query state
  if index.timesOut provider then
    (.error (.timeout index.settings.embeddings.queryTimeout), state)
  else
    match answer with
    | .ok vector => (.ok vector, state)
    | .error failure => (.error (.embedding (Text.join ": " failure.chain)), state)

/-- Search by meaning; the vectors of the hits count as used now. -/
def search (index : Index σ) (workspace : Workspace σ) (query : String) (limit : Nat) (now : Int) :
    Except IndexError (List SearchResult) × Index σ × Workspace σ :=
  match index.readyState "search", index.provider with
  | .error error, _ => (.error error, index, workspace)
  | .ok _, none =>
    (.error (.embedding "no embedding provider configured"), index, workspace)
  | .ok state, some provider =>
    let workspace := countSearch workspace
    let query := Text.trim query
    if query = "" ∨ limit = 0 then (.ok [], index, workspace)
    else
      let (vector, after) := index.queryVector provider query workspace.provider
      let workspace := { workspace with provider := after }
      match vector with
      | .error error => (.error error, index, workspace)
      | .ok vector =>
        let (hits, embeddings) :=
          state.embeddings.search state.symbols vector index.settings.embeddings.relevanceFloor
            limit now
        (.ok (hits.map (SearchResult.ofHit query)),
          { index with published := { state with embeddings } }, workspace)

/-- Search by name. -/
def searchSymbols (index : Index σ) (workspace : Workspace σ) (query : SymbolQuery) :
    Except IndexError (List RankedSymbol) × Workspace σ :=
  match index.readyState "search_symbols" with
  | .error error => (.error error, workspace)
  | .ok state => (state.symbols.search query, countSearch workspace)

/-- The symbols of a file from top to bottom. -/
def symbolsInFile (index : Index σ) (files : FileSystem) (file : String) :
    Except IndexError (List Symbol) := do
  let state ← index.readyState "symbols_in_file"
  .ok (((index.keyOf? files file).map state.symbols.inFile).getD [])

/-- The symbols of a kind. -/
def symbolsOfKind (index : Index σ) (kind : SymbolKind) : Except IndexError (List Symbol) := do
  let state ← index.readyState "symbols_of_kind"
  .ok (state.symbols.ofKind kind)

/-- The present text of a file. -/
def sourceText? (index : Index σ) (files : FileSystem) (key : String) : Option String :=
  (files.readText (PathKey.below index.root key)).toOption

/-- Where a name is used. -/
def usages (index : Index σ) (files : FileSystem) (name : String) (scope : UsageScope) :
    Except IndexError (List Usage) := do
  let state ← index.readyState "find_usages"
  .ok (state.symbols.usages name scope (index.sourceText? files))

/-- The files that define, import, export and use a name. -/
def crossReferences (index : Index σ) (files : FileSystem) (name : String) :
    Except IndexError (Option CrossReference) := do
  let state ← index.readyState "cross_references"
  .ok (state.symbols.crossReference? name (index.sourceText? files))

/-- The files of the graph that a file imports. -/
def dependencies (index : Index σ) (files : FileSystem) (file : String) :
    Except IndexError (List String) := do
  let state ← index.readyState "dependencies"
  .ok (((index.keyOf? files file).map state.graph.neighbors).getD [])

/-- The files that import a file. -/
def dependents (index : Index σ) (files : FileSystem) (file : String) :
    Except IndexError (List String) := do
  let state ← index.readyState "dependents"
  match (index.keyOf? files file).bind state.graph.get? with
  | some node => .ok node.dependents.toList
  | none => .ok []

/-- The import cycles. -/
def cycles (index : Index σ) : Except IndexError (List Graph.Cycle) := do
  let state ← index.readyState "find_cycles"
  .ok state.graph.cycles

/-- The keys of the given entry files; without any, those that the graph suggests. -/
def entryKeys (index : Index σ) (files : FileSystem) (graph : ImportGraph)
    (entries : List String) : List String :=
  if entries.isEmpty then graph.inferredEntries else entries.filterMap (index.keyOf? files)

/-- The files that no entry file reaches. -/
def unreachable (index : Index σ) (files : FileSystem) (entries : List String) :
    Except IndexError (List String) := do
  let state ← index.readyState "find_unreachable"
  .ok (state.graph.unreachable (index.entryKeys files state.graph entries))

/-- The analysis of the whole graph. -/
def analyze (index : Index σ) (files : FileSystem) (entries : List String) :
    Except IndexError Graph.Analysis := do
  let state ← index.readyState "analyze_dependencies"
  .ok (state.graph.analyze (index.entryKeys files state.graph entries))

/-- The analysis of one file. -/
def analyzeFile (index : Index σ) (files : FileSystem) (file : String) :
    Except IndexError (Option Graph.FileAnalysis) := do
  let state ← index.readyState "module_analysis"
  .ok ((index.keyOf? files file).bind state.graph.analyzeFile?)

/-- The graph for drawing. -/
def exported (index : Index σ) : Except IndexError Graph.Exported := do
  let state ← index.readyState "graph_export"
  .ok state.graph.exported

/-- The figures of the published state, in every phase. -/
def stats (index : Index σ) : PassStats := index.published.currentStats

/-- The numbers of symbols, in every phase. -/
def symbolStats (index : Index σ) : SymbolStats := index.published.symbols.stats

/-- The figures of the published snapshot, in every phase. -/
def snapshotStats (index : Index σ) : SnapshotStats := .of index.published.snapshot

/-- How long the index counts as fresh, in milliseconds: the settings' seconds, at most the largest
unsigned word, read as a signed word. -/
def freshFor (settings : IndexerSettings) : Int :=
  Int.bmod (min (settings.ttlSeconds * 1000) (Word64.count - 1) : Nat) Word64.count

/-- Whether the published snapshot is older than the settings allow. -/
def isStale (index : Index σ) (now : Int) : Bool :=
  match index.published.snapshot with
  | some snapshot =>
    freshFor index.settings.indexer < Int.bmod (now - snapshot.capturedAt) Word64.count
  | none => true

/-- How well the provider is, if there is one. -/
def providerHealth (index : Index σ) (state : σ) : Option Health × σ :=
  match index.provider with
  | some provider =>
    let (health, state) := provider.health state
    (some health, state)
  | none => (none, state)

end Index

end SourceAtlas
