import SourceAtlas.Config.Settings
import SourceAtlas.Embedding.Batch
import SourceAtlas.Embedding.Eviction
import SourceAtlas.Files.System
import SourceAtlas.Graph.Assembly
import SourceAtlas.Index.Progress
import SourceAtlas.Index.State

/-!
# A pass over a change set

A pass takes the published contents, the snapshot just taken and the changes
since, and makes the next contents: it reads and parses the changed files,
drops what they held before, puts in what they hold now, brings the graph up to
date, embeds the new symbols and finally enforces the memory budget. A file or
symbol that fails is noted and left out.
-/

namespace SourceAtlas

/-- What a pass works with. -/
structure PassContext (σ : Type) where
  settings : Settings
  parser : FactParser
  provider : Option (Provider σ)
  files : FileSystem
  /-- Whether the pass starts from published contents. -/
  incremental : Bool
  now : Int

/-- A file that was read and parsed. -/
structure ParsedFile where
  path : String
  symbols : List Symbol
  node : Graph.Node

/-- The resolver of imports that the settings ask for. -/
def DependencySettings.resolver (settings : DependencySettings) : Graph.Resolver :=
  Graph.Resolver.ofExtensions settings.extensions settings.includeExternals

namespace PassContext

variable {σ : Type}

/-- Whether a tracked file is parsed. -/
def isIndexable (context : PassContext σ) (path : String) : Bool :=
  (match PathKey.extension? path with
    | some extension => context.settings.indexer.extensions.contains extension
    | none => false) && context.parser.supports path

/-- The wording of a parse failure. -/
def parseFailureText (path reason : String) : String :=
  "failed to parse " ++ path ++ ": " ++ reason

/-- Read and parse one file. -/
def parseFile (context : PassContext σ) (record : FileRecord) : Except Failure ParsedFile :=
  match context.files.readText record.absolutePath with
  | .error failure => .error { path := record.path, reason := failure.message, stage := .read }
  | .ok text =>
    match context.parser.parse record.path text with
    | .error reason =>
      .error
        { path := record.path
          reason := parseFailureText record.absolutePath reason
          stage := .parse }
    | .ok facts =>
      let lines := Text.lines text
      .ok
        { path := record.path
          symbols := facts.symbols.map fun fact =>
            Symbol.ofFact record.path fact lines context.settings.indexer.contextLines context.now
          node :=
            { file := record.path, imports := facts.imports, exports := facts.exports } }

/-- The records to parse, added ones first. -/
def toParse (context : PassContext σ) (changes : ChangeSet) : List FileRecord :=
  changes.upserted.filter fun record => context.isIndexable record.path

/-- Both sides of a list of outcomes. -/
def splitOutcomes : List (Except Failure ParsedFile) → List Failure × List ParsedFile
  | [] => ([], [])
  | .error failure :: rest =>
    let (failures, parsed) := splitOutcomes rest
    (failure :: failures, parsed)
  | .ok file :: rest =>
    let (failures, parsed) := splitOutcomes rest
    (failures, file :: parsed)

/-- The paths that lose their symbols and nodes: deleted ones, and changed ones that gave no
facts. -/
def dropped (changes : ChangeSet) (parsed : List ParsedFile) : List String :=
  let read := parsed.map ParsedFile.path
  changes.deleted ++ (changes.upserted.map FileRecord.path).filter fun path => !read.contains path

/-- Drop the symbols of a file with their vectors. -/
def dropFile (contents : SymbolTable × EmbeddingCache) (path : String) :
    SymbolTable × EmbeddingCache :=
  let (removed, symbols) := contents.1.takeFile path
  (symbols, removed.foldl EmbeddingCache.remove contents.2)

/-- Put the symbols of a parsed file in place of the earlier ones, whose vectors go. -/
def storeFile (now : Int) (contents : SymbolTable × EmbeddingCache) (file : ParsedFile) :
    SymbolTable × EmbeddingCache :=
  let (removed, symbols) := contents.1.exchangeFile file.path file.symbols now
  (symbols, removed.foldl EmbeddingCache.remove contents.2)

/-- Store parsed files one after the other, with the identifiers each one gave, from top to
bottom. -/
def storeFiles (now : Int) :
    SymbolTable × EmbeddingCache → List ParsedFile → List String × SymbolTable × EmbeddingCache
  | contents, [] => ([], contents)
  | contents, file :: rest =>
    let contents := storeFile now contents file
    let own := (contents.1.inFile file.path).map Symbol.id
    let (others, contents) := storeFiles now contents rest
    (own ++ others, contents)

/-- The jobs that embed the given symbols. -/
def jobsFor (symbols : SymbolTable) (ids : List String) : List EmbeddingJob :=
  ids.filterMap fun id => (symbols.get? id).map fun symbol =>
    { symbolId := id, text := symbol.embeddingText }

/-- Store vectors, noting those that are refused. -/
def storeVectors (symbols : SymbolTable) (now : Int) :
    List (String × Embedding) → EmbeddingCache → List Failure × Nat × EmbeddingCache
  | [], cache => ([], 0, cache)
  | (id, vector) :: rest, cache =>
    match cache.insert symbols id vector now with
    | .ok cache =>
      let (failures, stored, cache) := storeVectors symbols now rest cache
      (failures, stored + 1, cache)
    | .error error =>
      let (failures, stored, cache) := storeVectors symbols now rest cache
      ({ path := id, reason := error.message, stage := .embedding } :: failures, stored, cache)

/-- What embedding the new symbols of a pass gave. -/
structure EmbeddingStep (σ : Type) where
  failures : List Failure := []
  generated : Nat := 0
  cache : EmbeddingCache
  progress : List ProgressEvent := []
  provider : σ

/-- Store the vectors that came back for jobs, in the order in which they did, and note the jobs
without one. -/
def gather (context : PassContext σ) (symbols : SymbolTable) (cache : EmbeddingCache)
    (jobs : List EmbeddingJob) (outcome : BatchOutcome) (settled : List Nat) (state : σ) :
    EmbeddingStep σ :=
  let (refused, generated, cache) := storeVectors symbols context.now outcome.vectors cache
  let failed := outcome.failed.map fun id =>
    { path := id, reason := "embedding provider failed", stage := .embedding : Failure }
  { failures := refused ++ failed
    generated
    cache
    progress := settled.map fun done =>
      { step := .embedding, current := done, total := jobs.length }
    provider := state }

/-- Embed the given symbols, if there is a provider, batch after batch. -/
def embedSymbols (context : PassContext σ) (symbols : SymbolTable) (cache : EmbeddingCache)
    (ids : List String) (state : σ) : EmbeddingStep σ :=
  match context.provider with
  | none => { cache, provider := state }
  | some provider =>
    let jobs := jobsFor symbols ids
    let (outcome, settled, state) :=
      provider.embedAll context.settings.embeddings.batchSize jobs state
    context.gather symbols cache jobs outcome settled state

/-- The graph after a pass. A pass from published contents resolves again only what may have
changed. -/
def nextGraph (context : PassContext σ) (graph : ImportGraph) (changes : ChangeSet)
    (nodes : List Graph.Node) (removed : List String) (known : FileSet) : ImportGraph :=
  let resolver := context.settings.dependencies.resolver
  if context.incremental then
    graph.update resolver nodes removed known
      (!changes.added.isEmpty || !changes.deleted.isEmpty)
  else ImportGraph.build resolver nodes known

/-- What a pass made. -/
structure Made (σ : Type) where
  state : IndexState
  events : List ProgressEvent := []
  provider : σ
  /-- Files skipped and symbols evicted by the pass itself. -/
  skipped : Nat := 0
  evicted : Nat := 0

/-- A pass that found nothing changed keeps the contents. -/
def keep (base : IndexState) (snapshot : Snapshot) (changes : ChangeSet) : IndexState :=
  { base with
    snapshot := some snapshot
    stats := { base.stats with changes := changes.counts, incremental := true, duration := 0 } }

/-- The progress of parsing so many files. -/
def parsingEvents (total : Nat) : List ProgressEvent :=
  (List.range total).map fun done => { step := .parsing, current := done + 1, total }

/-- A pass that applies a change set, by what becomes of the symbols that it has to embed. -/
def reworkBy (context : PassContext σ) (base : IndexState) (snapshot : Snapshot)
    (changes : ChangeSet)
    (embed : SymbolTable → EmbeddingCache → List String → EmbeddingStep σ) : Made σ :=
  let unreadable := snapshot.skipped.map fun entry =>
    { path := entry.path, reason := entry.reason, stage := .read : Failure }
  let records := context.toParse changes
  let (unparsed, parsed) := splitOutcomes (records.map context.parseFile)
  let removed := dropped changes parsed
  let contents := removed.foldl dropFile (base.symbols, base.embeddings)
  let (newIds, symbols, cache) := storeFiles context.now contents parsed
  let known : FileSet := Std.ExtTreeSet.ofList snapshot.files.keys compare
  let graph := context.nextGraph base.graph changes (parsed.map ParsedFile.node) removed known
  let step := embed symbols cache newIds
  let budget := MemoryBudget.ofMegabytes context.settings.embeddings.maxMemory
  let (eviction, symbols, cache) := budget.enforce symbols (step.cache.purgeOrphans symbols)
  let report : FailureReport := ⟨unreadable ++ unparsed ++ step.failures⟩
  let skipped := (report.ofStage .read).length + (report.ofStage .parse).length
  { state :=
      { snapshot := some snapshot
        symbols
        graph
        embeddings := cache
        stats :=
          { totalSymbols := symbols.size
            filesIndexed := graph.size
            filesSkipped := skipped
            megabytes := megabytesOf (cache.estimatedBytes symbols)
            lastUpdated := context.now
            embeddingsGenerated := step.generated
            embeddingsFailed := (report.ofStage .embedding).length
            symbolsEvicted := eviction.evicted.length
            changes := changes.counts
            incremental := context.incremental }
        failures := some report }
    events := parsingEvents records.length ++ { step := .finalizing } :: step.progress
    provider := step.provider
    skipped
    evicted := eviction.evicted.length }

/-- A pass that applies a change set. -/
def rework (context : PassContext σ) (base : IndexState) (snapshot : Snapshot)
    (changes : ChangeSet) (provider : σ) : Made σ :=
  context.reworkBy base snapshot changes fun symbols cache ids =>
    context.embedSymbols symbols cache ids provider

/-- Apply a change set to the contents it was computed against. -/
def apply (context : PassContext σ) (base : IndexState) (snapshot : Snapshot)
    (changes : ChangeSet) (provider : σ) : Made σ :=
  if context.incremental && changes.isEmpty then
    { state := keep base snapshot changes, provider }
  else context.rework base snapshot changes provider

end PassContext

end SourceAtlas
