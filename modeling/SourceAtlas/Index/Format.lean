import SourceAtlas.Index.Saved
import SourceAtlas.Json.Reader

/-!
# The format of saved indexes

A saved index is one JSON object. For every part there is a writer to a value
and a reader from a value; a reader refuses a missing field, a field written
twice and a number out of its range.
-/

namespace SourceAtlas

open JsonValue

/-- A field that has to be there. -/
def requiredField {α : Type} (decode : JsonValue → Option α) (field : Option JsonValue) :
    Option α := do
  decode (← field)

/-- A field that may be absent or null. -/
def optionalField {α : Type} (decode : JsonValue → Option α) :
    Option JsonValue → Option (Option α)
  | none => some none
  | some value => option? decode value

namespace FileRecord

/-- The fields of a written record. -/
def fieldNames : List String :=
  ["relative_path", "absolute_path", "size_bytes", "modified_at_millis", "checksum"]

/-- The written record of a file. -/
def toJson (record : FileRecord) : JsonValue :=
  .object [("relative_path", .text record.path), ("absolute_path", .text record.absolutePath),
    ("size_bytes", ofNat record.size), ("modified_at_millis", .integer record.modified),
    ("checksum", ofOption .text record.checksum)]

/-- The record of a written value. -/
def ofJson? (value : JsonValue) : Option FileRecord := do
  match ← fields? fieldNames value with
  | [path, absolutePath, size, modified, checksum] =>
    some
      { path := ← requiredField text? path
        absolutePath := ← requiredField text? absolutePath
        size := ← requiredField nat64? size
        modified := ← requiredField int64? modified
        checksum := ← optionalField text? checksum }
  | _ => none

end FileRecord

/-- The map of key-value pairs; of two values for one key the last counts. -/
def fileMapOf {α : Type} (entries : List (String × α)) : FileMap α :=
  entries.foldl (fun map entry => map.insert entry.1 entry.2) ∅

namespace Snapshot

/-- The fields of a written snapshot. -/
def fieldNames : List String := ["root_path", "captured_at_millis", "files", "version_tag"]

/-- The written snapshot. -/
def toJson (snapshot : Snapshot) : JsonValue :=
  .object [("root_path", .text snapshot.rootPath),
    ("captured_at_millis", .integer snapshot.capturedAt),
    ("files", .object (snapshot.files.toList.map fun entry => (entry.1, entry.2.toJson))),
    ("version_tag", .text snapshot.versionTag)]

/-- The snapshot of a written value. -/
def ofJson? (value : JsonValue) : Option Snapshot := do
  match ← fields? fieldNames value with
  | [rootPath, capturedAt, files, versionTag] =>
    some
      { rootPath := ← requiredField text? rootPath
        capturedAt := ← requiredField int64? capturedAt
        files := fileMapOf (← requiredField (map? FileRecord.ofJson?) files)
        versionTag := ← requiredField text? versionTag }
  | _ => none

end Snapshot

/-- The kind of a written value: its name, alone or as the only key of an object. -/
def SymbolKind.ofJson? : JsonValue → Option SymbolKind
  | .text label => SymbolKind.ofLabel? label
  | .object [(label, .null)] => SymbolKind.ofLabel? label
  | _ => none

namespace Symbol

/-- The fields of a written symbol. -/
def fieldNames : List String :=
  ["id", "name", "kind", "file_path", "start_line", "end_line", "signature", "content",
    "context_window", "indexed_at_millis"]

/-- The written symbol. -/
def toJson (symbol : Symbol) : JsonValue :=
  .object [("id", .text symbol.id), ("name", .text symbol.name),
    ("kind", .text symbol.kind.label), ("file_path", .text symbol.file),
    ("start_line", ofNat symbol.startLine), ("end_line", ofNat symbol.endLine),
    ("signature", ofOption .text symbol.signature), ("content", .text symbol.content),
    ("context_window", .text symbol.contextWindow),
    ("indexed_at_millis", .integer symbol.indexedAt)]

/-- The symbol of a written value. -/
def ofJson? (value : JsonValue) : Option Symbol := do
  match ← fields? fieldNames value with
  | [id, name, kind, file, startLine, endLine, signature, content, contextWindow, indexedAt] =>
    some
      { id := ← requiredField text? id
        name := ← requiredField text? name
        kind := ← requiredField SymbolKind.ofJson? kind
        file := ← requiredField text? file
        startLine := ← requiredField nat64? startLine
        endLine := ← requiredField nat64? endLine
        signature := ← optionalField text? signature
        content := ← requiredField text? content
        contextWindow := ← requiredField text? contextWindow
        indexedAt := ← requiredField int64? indexedAt }
  | _ => none

end Symbol

namespace ImportFact

/-- The fields of a written import. -/
def fieldNames : List String := ["source", "specifiers", "line"]

/-- The written import. -/
def toJson (fact : ImportFact) : JsonValue :=
  .object [("source", .text fact.source), ("specifiers", ofTexts fact.specifiers),
    ("line", ofNat fact.line)]

/-- The import of a written value. -/
def ofJson? (value : JsonValue) : Option ImportFact := do
  match ← fields? fieldNames value with
  | [source, specifiers, line] =>
    some
      { source := ← requiredField text? source
        specifiers := ← requiredField (list? text?) specifiers
        line := ← requiredField nat64? line }
  | _ => none

end ImportFact

namespace ExportFact

/-- The fields of a written export. -/
def fieldNames : List String := ["name", "line"]

/-- The written export. -/
def toJson (fact : ExportFact) : JsonValue :=
  .object [("name", .text fact.name), ("line", ofNat fact.line)]

/-- The export of a written value. -/
def ofJson? (value : JsonValue) : Option ExportFact := do
  match ← fields? fieldNames value with
  | [name, line] =>
    some { name := ← requiredField text? name, line := ← requiredField nat64? line }
  | _ => none

end ExportFact

/-- A written set of texts. -/
def fileSet? (value : JsonValue) : Option FileSet :=
  (list? text? value).map fun texts => Std.ExtTreeSet.ofList texts compare

namespace Graph.Node

/-- The fields of a written node. -/
def fieldNames : List String :=
  ["file_path", "imports", "exports", "dependencies", "external_dependencies", "unresolved",
    "dependents"]

/-- The written node. -/
def toJson (node : Node) : JsonValue :=
  .object [("file_path", .text node.file), ("imports", .array (node.imports.map ImportFact.toJson)),
    ("exports", .array (node.exports.map ExportFact.toJson)),
    ("dependencies", ofTexts node.dependencies.toList),
    ("external_dependencies", ofTexts node.externals.toList),
    ("unresolved", ofTexts node.unresolved),
    ("dependents", ofTexts node.dependents.toList)]

/-- The node of a written value; the dependents may be left out. -/
def ofJson? (value : JsonValue) : Option Node := do
  match ← fields? fieldNames value with
  | [file, imports, exports, dependencies, externals, unresolved, dependents] =>
    some
      { file := ← requiredField text? file
        imports := ← requiredField (list? ImportFact.ofJson?) imports
        exports := ← requiredField (list? ExportFact.ofJson?) exports
        dependencies := ← requiredField fileSet? dependencies
        externals := ← requiredField fileSet? externals
        unresolved := ← requiredField (list? text?) unresolved
        dependents := ← match dependents with
          | none => some ∅
          | some value => fileSet? value }
  | _ => none

end Graph.Node

namespace ImportGraph

/-- The written graph. -/
def toJson (graph : ImportGraph) : JsonValue :=
  .object [("nodes", .object (graph.nodes.toList.map fun entry => (entry.1, entry.2.toJson)))]

/-- The graph of a written value. -/
def ofJson? (value : JsonValue) : Option ImportGraph := do
  match ← fields? ["nodes"] value with
  | [nodes] => some { nodes := fileMapOf (← requiredField (map? Graph.Node.ofJson?) nodes) }
  | _ => none

end ImportGraph

namespace CacheEntry

/-- The fields of a written entry. -/
def fieldNames : List String := ["symbol_id", "vector", "last_accessed_millis"]

/-- The written entry. -/
def toJson (entry : CacheEntry) : JsonValue :=
  .object [("symbol_id", .text entry.symbolId), ("vector", .array (entry.vector.map ofFloat32)),
    ("last_accessed_millis", .integer entry.lastAccess)]

/-- The entry of a written value. -/
def ofJson? (value : JsonValue) : Option CacheEntry := do
  match ← fields? fieldNames value with
  | [symbolId, vector, lastAccess] =>
    some
      { symbolId := ← requiredField text? symbolId
        vector := ← requiredField (list? float32?) vector
        lastAccess := ← requiredField int64? lastAccess }
  | _ => none

end CacheEntry

namespace ChangeCounts

/-- The fields of written counts. -/
def fieldNames : List String := ["added", "modified", "deleted", "unchanged"]

/-- The written counts. -/
def toJson (counts : ChangeCounts) : JsonValue :=
  .object [("added", ofNat counts.added), ("modified", ofNat counts.modified),
    ("deleted", ofNat counts.deleted), ("unchanged", ofNat counts.unchanged)]

/-- The counts of a written value. -/
def ofJson? (value : JsonValue) : Option ChangeCounts := do
  match ← fields? fieldNames value with
  | [added, modified, deleted, unchanged] =>
    some
      { added := ← requiredField nat64? added
        modified := ← requiredField nat64? modified
        deleted := ← requiredField nat64? deleted
        unchanged := ← requiredField nat64? unchanged }
  | _ => none

end ChangeCounts

namespace PassStats

/-- The fields of written figures. -/
def fieldNames : List String :=
  ["total_symbols", "files_indexed", "files_skipped", "memory_usage_mb", "last_updated_millis",
    "embeddings_generated", "embeddings_failed", "symbols_evicted", "changes", "incremental",
    "duration_ms"]

/-- The written figures. -/
def toJson (stats : PassStats) : JsonValue :=
  .object [("total_symbols", ofNat stats.totalSymbols), ("files_indexed", ofNat stats.filesIndexed),
    ("files_skipped", ofNat stats.filesSkipped), ("memory_usage_mb", ofFloat stats.megabytes),
    ("last_updated_millis", .integer stats.lastUpdated),
    ("embeddings_generated", ofNat stats.embeddingsGenerated),
    ("embeddings_failed", ofNat stats.embeddingsFailed),
    ("symbols_evicted", ofNat stats.symbolsEvicted), ("changes", stats.changes.toJson),
    ("incremental", .boolean stats.incremental), ("duration_ms", ofNat stats.duration)]

/-- The figures of a written value. -/
def ofJson? (value : JsonValue) : Option PassStats := do
  match ← fields? fieldNames value with
  | [totalSymbols, filesIndexed, filesSkipped, megabytes, lastUpdated, generated, failed, evicted,
      changes, incremental, duration] =>
    some
      { totalSymbols := ← requiredField nat64? totalSymbols
        filesIndexed := ← requiredField nat64? filesIndexed
        filesSkipped := ← requiredField nat64? filesSkipped
        megabytes := ← requiredField float? megabytes
        lastUpdated := ← requiredField int64? lastUpdated
        embeddingsGenerated := ← requiredField nat64? generated
        embeddingsFailed := ← requiredField nat64? failed
        symbolsEvicted := ← requiredField nat64? evicted
        changes := ← requiredField ChangeCounts.ofJson? changes
        incremental := ← requiredField bool? incremental
        duration := ← requiredField nat64? duration }
  | _ => none

end PassStats

namespace SavedIndex

/-- The fields of a saved index. -/
def fieldNames : List String :=
  ["index_version", "snapshot", "symbols", "symbols_updated_millis", "graph", "embeddings", "stats"]

/-- The value of a saved index. -/
def toJson (saved : SavedIndex) : JsonValue :=
  .object [("index_version", ofNat version), ("snapshot", ofOption Snapshot.toJson saved.snapshot),
    ("symbols", .array (saved.symbols.map Symbol.toJson)),
    ("symbols_updated_millis", .integer saved.symbolsUpdated), ("graph", saved.graph.toJson),
    ("embeddings", .array (saved.embeddings.map CacheEntry.toJson)), ("stats", saved.stats.toJson)]

/-- The saved index of a value, when the value has this version. -/
def ofJson? (value : JsonValue) : Option SavedIndex := do
  match ← fields? fieldNames value with
  | [index, snapshot, symbols, symbolsUpdated, graph, embeddings, stats] =>
    if (← requiredField nat64? index) = version then
      some
        { snapshot := ← optionalField Snapshot.ofJson? snapshot
          symbols := ← requiredField (list? Symbol.ofJson?) symbols
          symbolsUpdated := ← requiredField int64? symbolsUpdated
          graph := ← requiredField ImportGraph.ofJson? graph
          embeddings := ← requiredField (list? CacheEntry.ofJson?) embeddings
          stats := ← requiredField PassStats.ofJson? stats }
    else none
  | _ => none

/-- The text of a saved index. -/
def render (saved : SavedIndex) : String := saved.toJson.render

/-- The saved index of a text; only an object is one. -/
def parse? (text : String) : Option SavedIndex := do
  match ← JsonValue.parse? text with
  | .object members => ofJson? (.object members)
  | _ => none

end SavedIndex

end SourceAtlas
