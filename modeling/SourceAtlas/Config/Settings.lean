import SourceAtlas.Path.Key

/-!
# Settings

Every setting with its default. A project keeps them in one directory beside
its sources, together with the saved index.
-/

namespace SourceAtlas

/-- How a source tree is walked and read. -/
structure IndexerSettings where
  /-- Extensions of files whose contents are checked. -/
  extensions : List String :=
    ["ts", "tsx", "js", "jsx", "mjs", "py", "pyx", "java", "go", "rs", "cpp", "cc", "cxx", "c",
      "h", "hpp", "php", "rb", "swift", "kt", "dart"]
  /-- Ignore rules that outrank those in the tree. -/
  ignorePatterns : List String :=
    ["node_modules/**", ".git/**", "dist/**", "build/**", "coverage/**", "target/**",
      ".codeindex/**", "*.log", ".DS_Store", "Thumbs.db"]
  /-- Levels of directories below the root that are entered. -/
  maxDepth : Nat := 10
  /-- Larger files are not tracked. -/
  maxFileSize : Nat := 1024 * 1024
  checksums : Bool := true
  /-- Parse workers; by default one per processor. -/
  threads : Option Nat := none
  /-- Lines kept above and below a symbol. -/
  contextLines : Nat := 3
  /-- How long a built index counts as fresh. -/
  ttlSeconds : Nat := 300
  deriving DecidableEq, Repr, Inhabited

/-- Defaults of symbol queries. -/
structure SymbolSettings where
  limit : Nat := 50
  fuzzy : Bool := true
  caseSensitive : Bool := false
  deriving DecidableEq, Repr, Inhabited

/-- How imports are resolved. -/
structure DependencySettings where
  /-- Extensions tried in order. -/
  extensions : List String := [".ts", ".tsx", ".js", ".jsx", ".json"]
  includeExternals : Bool := false
  deriving DecidableEq, Repr, Inhabited

/-- Where embeddings come from. -/
inductive ProviderKind where
  /-- A model run in place. -/
  | localModel
  /-- A service reached over the network. -/
  | service
  deriving DecidableEq, Repr, Inhabited

/-- The written name of a kind of provider. -/
def ProviderKind.label : ProviderKind → String
  | .localModel => "fastembed"
  | .service => "openai"

/-- Every kind of provider. -/
def ProviderKind.all : List ProviderKind := [.localModel, .service]

/-- Settings of the embedding service. -/
structure ServiceSettings where
  /-- The environment variable that holds the key. -/
  keyVariable : String := "OPENAI_API_KEY"
  model : String := "text-embedding-3-small"
  baseUrl : Option String := none
  maxRetries : Nat := 3
  initialBackoff : Nat := 1000
  maxBackoff : Nat := 60000
  deriving DecidableEq, Repr, Inhabited

/-- Settings of embeddings. -/
structure EmbeddingSettings where
  provider : ProviderKind := .localModel
  model : String := "all-MiniLM-L6-v2"
  batchSize : Nat := 32
  concurrentBatches : Nat := 4
  /-- Memory budget in mebibytes. -/
  maxMemory : Nat := 500
  /-- The least similarity of a hit. -/
  relevanceFloor : Float32 := 0.7
  /-- How long embedding a query may take, in milliseconds. -/
  queryTimeout : Nat := 10000
  service : ServiceSettings := {}
  deriving Inhabited

/-- Settings of semantic search. -/
structure SearchSettings where
  limit : Nat := 10
  deriving DecidableEq, Repr, Inhabited

/-- Settings of the log. -/
structure LoggingSettings where
  enabled : Bool := false
  stderr : Bool := true
  level : String := "debug"
  directory : String := ".codeindex/logs"
  rotation : String := "daily"
  fileStem : String := "codeindex.log"
  deriving DecidableEq, Repr, Inhabited

/-- All settings. -/
structure Settings where
  indexer : IndexerSettings := {}
  symbols : SymbolSettings := {}
  dependencies : DependencySettings := {}
  embeddings : EmbeddingSettings := {}
  search : SearchSettings := {}
  logging : LoggingSettings := {}
  deriving Inhabited

namespace Settings

/-- The directory of a project's settings and index. -/
def directory : String := ".codeindex"

/-- The file of a project's settings. -/
def path (root : String) : String := PathKey.below root (directory ++ "/config.toml")

/-- The file of a project's saved index. -/
def indexPath (root : String) : String := PathKey.below root (directory ++ "/index.json")

end Settings

end SourceAtlas
