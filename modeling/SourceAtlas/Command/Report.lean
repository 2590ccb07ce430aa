import SourceAtlas.Index.Query
import SourceAtlas.Number.Fixed
import SourceAtlas.Time.Calendar

/-!
# Reports

What the commands print, as lines.
-/

namespace SourceAtlas.Report

/-- Lines as text; each one is ended. -/
def text (lines : List String) : String := String.join (lines.map (· ++ "\n"))

/-- A heading with the number of items, and the items. -/
def counted (heading : String) (items : List String) : List String :=
  (heading ++ " (" ++ toString items.length ++ "):") :: items.map ("  " ++ ·)

/-- A list with its heading and an empty line; nothing when it is empty. -/
def listed (heading : String) (items : List String) : List String :=
  if items.isEmpty then [] else counted heading items ++ [""]

/-- The line on the root directory. -/
def root (path : String) : String := "Project root: " ++ path

/-- Milliseconds as seconds with two places. -/
def seconds (milliseconds : Nat) : String :=
  fixedText 2 (milliseconds.toUInt64.toFloat / 1000.0) ++ "s"

/-- What changed. -/
def changes (counts : ChangeCounts) : String :=
  toString counts.added ++ " added, " ++ toString counts.modified ++ " modified, " ++
    toString counts.deleted ++ " deleted"

/-- What a pass did. -/
def pass (stats : PassStats) : List String :=
  let counts := stats.changes
  if stats.incremental ∧ counts.added + counts.modified + counts.deleted = 0 then
    ["Index is up to date. No files need indexing."]
  else
    ["Indexed " ++ toString stats.filesIndexed ++ " files (" ++ toString stats.totalSymbols ++
        " symbols, " ++ toString stats.embeddingsGenerated ++ " embeddings) in " ++
        seconds stats.duration,
      "Changes: " ++ changes counts ++ ", " ++ toString counts.unchanged ++ " unchanged"] ++
      if stats.incremental then ["(incremental update)"] else []

/-- The symbols a pass gave up. -/
def eviction (stats : PassStats) : List String :=
  if 0 < stats.symbolsEvicted then
    ["Evicted " ++ toString stats.symbolsEvicted ++ " symbols to stay within the memory budget"]
  else []

/-- The lines of a preview before it is cut. -/
def previewLines : Nat := 5

/-- The first lines of a text, further in. -/
def preview (content : String) : List String :=
  let lines := Text.lines content
  let shown :=
    if previewLines < lines.length then lines.take previewLines ++ ["   ..."] else lines
  if shown.isEmpty then [""] else shown.map ("   " ++ ·)

/-- A search without hits. -/
def noResults (query : String) (floor : Float32) : List String :=
  ["No results found for: " ++ query, "",
    "Nothing scored above the relevance floor of " ++ fixedText32 2 floor]

/-- One hit of a search, numbered from one. -/
def result (number : Nat) (hit : SearchResult) : List String :=
  (toString number ++ ". " ++ hit.symbol.file ++ ":" ++ toString hit.symbol.startLine ++ "-" ++
    toString hit.symbol.endLine ++ " " ++ hit.explanation) :: preview hit.symbol.content ++ [""]

/-- The hits of a search. -/
def results (query : String) (hits : List SearchResult) : List String :=
  ["Found " ++ toString hits.length ++ " results for: \"" ++ query ++ "\"", ""] ++
    (hits.mapIdx fun position hit => result (position + 1) hit).flatten

/-- One symbol with its score. -/
def rankedSymbol (ranked : RankedSymbol) : List String :=
  let symbol := ranked.symbol
  let line :=
    Text.padRight 9 symbol.kind.label ++ " " ++ Text.padRight 32 symbol.name ++ " " ++
      symbol.file ++ ":" ++ toString symbol.startLine ++ "  (" ++ fixedText32 2 ranked.score ++ ")"
  match symbol.signature with
  | some signature => [line, "          " ++ signature]
  | none => [line]

/-- The symbols found by name. -/
def rankedSymbols (query : String) (found : List RankedSymbol) : List String :=
  if found.isEmpty then ["No symbols match \"" ++ query ++ "\""]
  else found.flatMap rankedSymbol

/-- The usages of a name. -/
def usages (name : String) (found : List Usage) : List String :=
  if found.isEmpty then ["No usages of \"" ++ name ++ "\""]
  else
    [toString found.length ++ " usages of \"" ++ name ++ "\":", ""] ++ found.map fun usage =>
      usage.file ++ ":" ++ toString usage.line ++ ":" ++ toString usage.column ++ "  [" ++
        usage.kind.title ++ "]  " ++ usage.text

/-- The files that define, use, import and export a name. -/
def crossReference (name : String) : Option CrossReference → List String
  | none => ["No symbol named \"" ++ name ++ "\""]
  | some reference =>
    counted "Defined in" reference.definitionFiles ++ counted "Used in" reference.usageFiles ++
      counted "Imported by" reference.importedBy ++
      counted "Exported from" reference.exportedFrom

/-- A cycle that returns to its first file. -/
def cycle (found : Graph.Cycle) : String :=
  "  [" ++ found.severity.label ++ "] " ++ Text.join " -> " (found.files ++ found.files.take 1)

/-- The analysis of the whole graph. -/
def analysis (graph : Graph.Analysis) : List String :=
  let figures := graph.statistics
  ["Dependency Graph", "================", "",
    "  Files:               " ++ toString figures.totalFiles,
    "  Dependencies:        " ++ toString figures.totalDependencies,
    "  Average per file:    " ++ fixedText 2 figures.averageDependencies,
    "  Max depth:           " ++ toString figures.maxDepth,
    "  Circular:            " ++ toString figures.cycleCount,
    "  Unreachable:         " ++ toString figures.unreachableCount, ""] ++
    listed "Entry points" graph.entryPoints ++ listed "Leaf files" graph.leafFiles ++
    listed "Unreachable files" graph.unreachable ++
    if graph.cycles.isEmpty then []
    else ("Cycles (" ++ toString graph.cycles.length ++ "):") :: graph.cycles.map cycle

/-- The analysis of one file. -/
def fileAnalysis (found : Graph.FileAnalysis) : List String :=
  found.file :: listed "Internal dependencies" found.internal ++
    listed "External dependencies" found.external ++ listed "Dependents" found.dependents ++
    listed "Missing imports" found.missing ++ listed "Duplicate imports" found.duplicates ++
    found.cycles.map fun cycle => "  cycle: " ++ Text.join " -> " cycle.files

/-- The part of a status on the snapshot. -/
def snapshot (stats : SnapshotStats) (isStale : Bool) : List String :=
  ["Snapshot:"] ++ (stats.capturedAt.map fun time => "  Captured:     " ++ timeText time).toList ++
    ["  Files:        " ++ toString stats.fileCount,
      "  Total size:   " ++ toString stats.totalSize ++ " bytes"] ++
    (stats.versionTag.map ("  Version tag:  " ++ ·)).toList ++
    ["  Stale:        " ++ toString isStale, ""]

/-- The part of a status on the contents. -/
def contents (stats : PassStats) (symbols : SymbolStats) : List String :=
  ["Index Contents:", "  Indexed files:  " ++ toString stats.filesIndexed,
    "  Symbols:        " ++ toString stats.totalSymbols,
    "  Memory usage:   " ++ fixedText 2 stats.megabytes ++ " MB"] ++
    (symbols.byKind.map fun kind =>
      "    " ++ Text.padRight 12 kind.1.label ++ " " ++ toString kind.2) ++
    ["  Last updated:   " ++ timeText stats.lastUpdated, ""]

/-- The part of a status on the last pass. -/
def lastPass (stats : PassStats) : List String :=
  ["Last Build:", "  Changes:        " ++ changes stats.changes,
    "  Skipped files:  " ++ toString stats.filesSkipped,
    "  Embeddings:     " ++ toString stats.embeddingsGenerated ++ " generated, " ++
      toString stats.embeddingsFailed ++ " failed",
    "  Evicted:        " ++ toString stats.symbolsEvicted, ""]

/-- The part of a status on the gauges. -/
def gauges (metrics : Metrics) : List String :=
  ["Process Metrics:", "  Indexed files gauge:   " ++ toString metrics.indexedFiles,
    "  Indexed symbols gauge: " ++ toString metrics.indexedSymbols]

/-- The status of an index. -/
def status {σ : Type} (index : Index σ) (metrics : Metrics) (now : Int) : List String :=
  let heading := [root index.root, "Phase:        " ++ index.phase.label, ""]
  if !index.snapshotStats.isTaken then
    heading ++ ["No index yet. Run 'codeindex index' to build one."]
  else
    heading ++ snapshot index.snapshotStats (index.isStale now) ++
      contents index.stats index.symbolStats ++ lastPass index.stats ++ gauges metrics

/-- The failures of the last pass, when there were some. -/
def failures {σ : Type} (index : Index σ) : String :=
  match index.published.failures with
  | some report => if report.total = 0 then "" else report.printed
  | none => ""

end SourceAtlas.Report
