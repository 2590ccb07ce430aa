import SourceAtlas.Config.Settings
import SourceAtlas.Files.System
import SourceAtlas.Number.Single
import SourceAtlas.Number.Word
import SourceAtlas.Toml.Document

/-!
# Reading settings

Settings are read from a TOML table. An absent field takes its default, a field
of another name is passed over, and a field of the wrong kind or range refuses
the whole. A group of settings may also be written as an array of its fields in
order.
-/

namespace SourceAtlas

namespace TomlValue

/-- A text. -/
def text? : TomlValue → Option String
  | .text value => some value
  | _ => none

/-- A truth value. -/
def bool? : TomlValue → Option Bool
  | .boolean value => some value
  | _ => none

/-- A natural number up to a bound. -/
def natUpTo? (bound : Nat) : TomlValue → Option Nat
  | .integer value => if 0 ≤ value ∧ value ≤ bound then some value.toNat else none
  | _ => none

/-- A natural number of 64 bits. -/
def nat? (value : TomlValue) : Option Nat := value.natUpTo? (Word64.count - 1)

/-- A natural number of 32 bits. -/
def nat32? (value : TomlValue) : Option Nat := value.natUpTo? (Word32.count - 1)

/-- A single; integers count as numbers, too. -/
def float32? : TomlValue → Option Float32
  | .real value => some (nearestSingle value)
  | .integer value =>
    let size := value.natAbs.toUInt64.toFloat32
    some (if value < 0 then -size else size)
  | _ => none

/-- An array of texts. -/
def texts? : TomlValue → Option (List String)
  | .array items => items.mapM text?
  | .tables [] => some []
  | _ => none

/-- The fields of a group: the members with the given names, or the items in their order. -/
def fields? (names : List String) : TomlValue → Option (List (Option TomlValue))
  | .inlineTable members => some (byName members)
  | .table _ members => some (byName members)
  | .array items => some (inOrder items)
  | .tables items => some (inOrder (items.map fun members => .table .header members))
  | _ => none
where
  /-- The members with the given names. -/
  byName (members : List (String × TomlValue)) : List (Option TomlValue) :=
    names.map fun name => (members.find? fun member => member.1 = name).map Prod.snd
  /-- As many items as there are names. -/
  inOrder (items : List TomlValue) : List (Option TomlValue) :=
    (items.map some ++ List.replicate names.length none).take names.length

/-- Whether a value is an array or a table without contents. -/
def isHollow : TomlValue → Bool
  | .array [] => true
  | .inlineTable [] => true
  | .table _ [] => true
  | .tables [] => true
  | _ => false

/-- A name of a kind: its text, or a table with that key alone. -/
def variant? : TomlValue → Option String
  | .text value => some value
  | .inlineTable [(name, value)] => if value.isHollow then some name else none
  | .table _ [(name, value)] => if value.isHollow then some name else none
  | _ => none

/-- A field with a default. -/
def orDefault {α : Type} (decode : TomlValue → Option α) (default : α) :
    Option TomlValue → Option α
  | some value => decode value
  | none => some default

/-- A field that may be absent. -/
def optional {α : Type} (decode : TomlValue → Option α) : Option TomlValue → Option (Option α)
  | some value => (decode value).map some
  | none => some none

end TomlValue

open TomlValue

/-- Settings of the indexer. -/
def IndexerSettings.ofToml? (value : TomlValue) : Option IndexerSettings := do
  let default : IndexerSettings := {}
  match ← fields? ["extensions", "ignore_patterns", "max_depth", "max_file_size",
      "checksum_enabled", "parallel_threads", "context_lines", "index_ttl_secs"] value with
  | [extensions, ignorePatterns, maxDepth, maxFileSize, checksums, threads, contextLines, ttl] =>
    some
      { extensions := ← orDefault texts? default.extensions extensions
        ignorePatterns := ← orDefault texts? default.ignorePatterns ignorePatterns
        maxDepth := ← orDefault nat? default.maxDepth maxDepth
        maxFileSize := ← orDefault nat? default.maxFileSize maxFileSize
        checksums := ← orDefault bool? default.checksums checksums
        threads := ← optional nat? threads
        contextLines := ← orDefault nat? default.contextLines contextLines
        ttlSeconds := ← orDefault nat? default.ttlSeconds ttl }
  | _ => none

/-- Settings of symbol queries. -/
def SymbolSettings.ofToml? (value : TomlValue) : Option SymbolSettings := do
  let default : SymbolSettings := {}
  match ← fields? ["default_limit", "fuzzy", "case_sensitive"] value with
  | [limit, fuzzy, caseSensitive] =>
    some
      { limit := ← orDefault nat? default.limit limit
        fuzzy := ← orDefault bool? default.fuzzy fuzzy
        caseSensitive := ← orDefault bool? default.caseSensitive caseSensitive }
  | _ => none

/-- Settings of import resolution. -/
def DependencySettings.ofToml? (value : TomlValue) : Option DependencySettings := do
  let default : DependencySettings := {}
  match ← fields? ["resolve_extensions", "include_externals"] value with
  | [extensions, includeExternals] =>
    some
      { extensions := ← orDefault texts? default.extensions extensions
        includeExternals := ← orDefault bool? default.includeExternals includeExternals }
  | _ => none

/-- The kind of a provider. -/
def ProviderKind.ofToml? (value : TomlValue) : Option ProviderKind := do
  let name ← value.variant?
  ProviderKind.all.find? fun kind => kind.label = name

/-- Settings of the embedding service. -/
def ServiceSettings.ofToml? (value : TomlValue) : Option ServiceSettings := do
  let default : ServiceSettings := {}
  match ← fields? ["api_key_env", "model", "base_url", "max_retries", "initial_backoff_ms",
      "max_backoff_ms"] value with
  | [keyVariable, model, baseUrl, maxRetries, initialBackoff, maxBackoff] =>
    some
      { keyVariable := ← orDefault text? default.keyVariable keyVariable
        model := ← orDefault text? default.model model
        baseUrl := ← optional text? baseUrl
        maxRetries := ← orDefault nat32? default.maxRetries maxRetries
        initialBackoff := ← orDefault nat? default.initialBackoff initialBackoff
        maxBackoff := ← orDefault nat? default.maxBackoff maxBackoff }
  | _ => none

/-- Settings of embeddings. -/
def EmbeddingSettings.ofToml? (value : TomlValue) : Option EmbeddingSettings := do
  let default : EmbeddingSettings := {}
  match ← fields? ["provider", "model", "batch_size", "max_concurrent_batches", "max_memory_mb",
      "relevance_floor", "query_timeout_ms", "openai"] value with
  | [provider, model, batchSize, concurrentBatches, maxMemory, floor, timeout, service] =>
    some
      { provider := ← orDefault ProviderKind.ofToml? default.provider provider
        model := ← orDefault text? default.model model
        batchSize := ← orDefault nat? default.batchSize batchSize
        concurrentBatches := ← orDefault nat? default.concurrentBatches concurrentBatches
        maxMemory := ← orDefault nat? default.maxMemory maxMemory
        relevanceFloor := ← orDefault float32? default.relevanceFloor floor
        queryTimeout := ← orDefault nat? default.queryTimeout timeout
        service := ← orDefault ServiceSettings.ofToml? default.service service }
  | _ => none

/-- Settings of semantic search. -/
def SearchSettings.ofToml? (value : TomlValue) : Option SearchSettings := do
  let default : SearchSettings := {}
  match ← fields? ["default_limit"] value with
  | [limit] => some { limit := ← orDefault nat? default.limit limit }
  | _ => none

/-- Settings of the log. -/
def LoggingSettings.ofToml? (value : TomlValue) : Option LoggingSettings := do
  let default : LoggingSettings := {}
  match ← fields? ["enabled", "stderr", "level", "directory", "rotation", "file_prefix"] value with
  | [enabled, stderr, level, directory, rotation, fileStem] =>
    some
      { enabled := ← orDefault bool? default.enabled enabled
        stderr := ← orDefault bool? default.stderr stderr
        level := ← orDefault text? default.level level
        directory := ← orDefault text? default.directory directory
        rotation := ← orDefault text? default.rotation rotation
        fileStem := ← orDefault text? default.fileStem fileStem }
  | _ => none

namespace Settings

/-- All settings. -/
def ofToml? (value : TomlValue) : Option Settings := do
  match ← fields? ["indexer", "symbols", "dependencies", "embeddings", "search", "logging"]
      value with
  | [indexer, symbols, dependencies, embeddings, search, logging] =>
    some
      { indexer := ← orDefault IndexerSettings.ofToml? {} indexer
        symbols := ← orDefault SymbolSettings.ofToml? {} symbols
        dependencies := ← orDefault DependencySettings.ofToml? {} dependencies
        embeddings := ← orDefault EmbeddingSettings.ofToml? {} embeddings
        search := ← orDefault SearchSettings.ofToml? {} search
        logging := ← orDefault LoggingSettings.ofToml? {} logging }
  | _ => none

/-- The settings of a document. -/
def parse? (document : String) : Option Settings := do
  ofToml? (← Toml.parse? document).toValue

end Settings

/-- Why settings could not be read. -/
inductive SettingsError where
  | unreadable (path : String) (failure : IoFailure)
  | malformed (path : String)
  deriving DecidableEq, Repr

/-- A path in quotes. -/
def quotedPath (path : String) : String :=
  "\"" ++ String.ofList (path.toList.flatMap fun c =>
    if c = '"' then ['\\', '"'] else if c = '\\' then ['\\', '\\'] else [c]) ++ "\""

/-- The text of an error. -/
def SettingsError.message : SettingsError → String
  | .unreadable path _ => "Failed to read config from " ++ quotedPath path
  | .malformed path => "Failed to parse config from " ++ quotedPath path

/-- The causes below an error that are told. -/
def SettingsError.causes : SettingsError → List String
  | .unreadable _ failure => [failure.message]
  | .malformed _ => []

/-- The settings of a project; without a file they are the defaults. -/
def Settings.load (files : FileSystem) (root : String) : Except SettingsError Settings :=
  let path := Settings.path root
  if files.contains path then
    match files.readText path with
    | .error failure => .error (.unreadable path failure)
    | .ok document =>
      match Settings.parse? document with
      | some settings => .ok settings
      | none => .error (.malformed path)
  else .ok {}

end SourceAtlas
