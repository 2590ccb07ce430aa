import SourceAtlas.Config.Settings
import SourceAtlas.Number.Decimal
import SourceAtlas.Text.Split

/-!
# Writing settings

Settings are written as a TOML document with a table per group. An array with
more than one item takes a line per item. A text with a backslash is written
without escapes where that is possible.
-/

namespace SourceAtlas

namespace TomlText

/-- A character of a text with escapes; line ends stay in texts over several lines. -/
def escaped (isBlock : Bool) (c : Char) : List Char :=
  if c = '\x08' then ['\\', 'b']
  else if c = '\t' then ['\\', 't']
  else if c = '\n' then (if isBlock then ['\n'] else ['\\', 'n'])
  else if c = '\x0c' then ['\\', 'f']
  else if c = '\r' then ['\\', 'r']
  else if c = '"' then ['\\', '"']
  else if c = '\\' then ['\\', '\\']
  else if c.toNat < 32 ∨ c.toNat = 127 then
    '\\' :: 'u' :: '0' :: '0' :: [c.toNat / 16, c.toNat % 16].map fun digit =>
      (Nat.digitChar digit).toUpper
  else [c]

/-- The length of the longest run of single quotes. -/
def longestQuoteRun (longest current : Nat) : List Char → Nat
  | [] => max longest current
  | c :: rest =>
    if c = '\'' then longestQuoteRun longest (current + 1) rest
    else longestQuoteRun (max longest current) 0 rest

/-- Whether a text can stand without escapes. -/
def isLiteral (chars : List Char) : Bool :=
  chars.contains '\\' && longestQuoteRun 0 0 chars < 3 && chars.getLast? != some '\'' &&
    chars.all fun c => c = '\t' || c = '\n' || (32 ≤ c.toNat && c.toNat ≠ 127)

/-- A text in quotes. -/
def quoted (text : String) : String :=
  let chars := text.toList
  let isBlock := chars.contains '\n'
  if isLiteral chars then
    if isBlock then "'''\n" ++ text ++ "'''"
    else if chars.contains '\'' then "'''" ++ text ++ "'''"
    else "'" ++ text ++ "'"
  else
    let inner := String.ofList (chars.flatMap (escaped isBlock))
    if isBlock then "\"\"\"\n" ++ inner ++ "\"\"\"" else "\"" ++ inner ++ "\""

/-- A truth value. -/
def boolean (value : Bool) : String := if value then "true" else "false"

/-- A number, always with a point unless it is not finite. -/
def real (x : Float) : String :=
  if x.isNaN then "nan"
  else if x.isInf then (if x < 0.0 then "-inf" else "inf")
  else (Decimal.shortest64 x).text .positional

/-- An array of texts; with more than one item it takes a line per item. -/
def texts (items : List String) : String :=
  match items with
  | [] => "[]"
  | [item] => "[" ++ quoted item ++ "]"
  | items => "[\n" ++ String.join (items.map fun item => "    " ++ quoted item ++ ",\n") ++ "]"

/-- A table with its bindings. -/
def table (name : String) (bindings : List (String × String)) : String :=
  "[" ++ name ++ "]\n" ++ String.join (bindings.map fun binding =>
    binding.1 ++ " = " ++ binding.2 ++ "\n")

/-- A binding that is left out when it has no value. -/
def optional (name : String) : Option String → List (String × String)
  | some value => [(name, value)]
  | none => []

end TomlText

open TomlText

/-- The written tables of all settings. -/
def Settings.tables (settings : Settings) : List String :=
  let indexer := settings.indexer
  let embeddings := settings.embeddings
  let service := embeddings.service
  let logging := settings.logging
  [table "indexer" ([("extensions", texts indexer.extensions),
      ("ignore_patterns", texts indexer.ignorePatterns),
      ("max_depth", toString indexer.maxDepth), ("max_file_size", toString indexer.maxFileSize),
      ("checksum_enabled", boolean indexer.checksums)] ++
      optional "parallel_threads" (indexer.threads.map toString) ++
      [("context_lines", toString indexer.contextLines),
        ("index_ttl_secs", toString indexer.ttlSeconds)]),
    table "symbols" [("default_limit", toString settings.symbols.limit),
      ("fuzzy", boolean settings.symbols.fuzzy),
      ("case_sensitive", boolean settings.symbols.caseSensitive)],
    table "dependencies" [("resolve_extensions", texts settings.dependencies.extensions),
      ("include_externals", boolean settings.dependencies.includeExternals)],
    table "embeddings" [("provider", quoted embeddings.provider.label),
      ("model", quoted embeddings.model), ("batch_size", toString embeddings.batchSize),
      ("max_concurrent_batches", toString embeddings.concurrentBatches),
      ("max_memory_mb", toString embeddings.maxMemory),
      ("relevance_floor", real embeddings.relevanceFloor.toFloat),
      ("query_timeout_ms", toString embeddings.queryTimeout)],
    table "embeddings.openai" ([("api_key_env", quoted service.keyVariable),
      ("model", quoted service.model)] ++ optional "base_url" (service.baseUrl.map quoted) ++
      [("max_retries", toString service.maxRetries),
        ("initial_backoff_ms", toString service.initialBackoff),
        ("max_backoff_ms", toString service.maxBackoff)]),
    table "search" [("default_limit", toString settings.search.limit)],
    table "logging" [("enabled", boolean logging.enabled), ("stderr", boolean logging.stderr),
      ("level", quoted logging.level), ("directory", quoted logging.directory),
      ("rotation", quoted logging.rotation), ("file_prefix", quoted logging.fileStem)]]

/-- The document of all settings. -/
def Settings.render (settings : Settings) : String := Text.join "\n" settings.tables

end SourceAtlas
