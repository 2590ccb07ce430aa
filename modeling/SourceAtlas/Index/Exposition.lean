import SourceAtlas.Index.Basic

/-!
# Exposition of metrics

The counters and gauges as text for a monitoring system: two comment lines for
each family, in the order of their names, followed by its sample. Durations and
sizes of answers are not kept here, so their families have no samples.
-/

namespace SourceAtlas

/-- What the samples of a family mean. -/
inductive MetricKind where
  | counter
  | gauge
  | histogram
  deriving DecidableEq, Repr

/-- The written name of a kind of metric. -/
def MetricKind.label : MetricKind → String
  | .counter => "counter"
  | .gauge => "gauge"
  | .histogram => "histogram"

/-- A family of samples. -/
structure MetricFamily where
  name : String
  description : String
  kind : MetricKind
  sample : Option Nat := none
  deriving DecidableEq, Repr

/-- The families, sorted by name. -/
def Metrics.families (metrics : Metrics) : List MetricFamily :=
  [{ name := "codeindex_embedding_latency_seconds"
     description := "Embedding generation latency in seconds"
     kind := .histogram },
   { name := "codeindex_embedding_requests_total"
     description := "Total embedding generation requests"
     kind := .counter },
   { name := "codeindex_evicted_symbols_total"
     description := "Symbols evicted under the memory budget"
     kind := .counter
     sample := some metrics.evictedSymbols },
   { name := "codeindex_indexed_files_total"
     description := "Files present in the published index"
     kind := .gauge
     sample := some metrics.indexedFiles },
   { name := "codeindex_indexed_symbols_total"
     description := "Symbols present in the published index"
     kind := .gauge
     sample := some metrics.indexedSymbols },
   { name := "codeindex_indexing_duration_seconds"
     description := "Time to build or update the index in seconds"
     kind := .histogram },
   { name := "codeindex_search_latency_seconds"
     description := "Search request latency in seconds"
     kind := .histogram },
   { name := "codeindex_search_requests_total"
     description := "Total number of search requests"
     kind := .counter
     sample := some metrics.searchRequests },
   { name := "codeindex_search_results_count"
     description := "Number of search results returned per request"
     kind := .histogram },
   { name := "codeindex_skipped_files_total"
     description := "Files skipped because they could not be read or parsed"
     kind := .counter
     sample := some metrics.skippedFiles }]

/-- The lines of a family. -/
def MetricFamily.lines (family : MetricFamily) : List String :=
  let heading :=
    ["# HELP " ++ family.name ++ " " ++ family.description,
      "# TYPE " ++ family.name ++ " " ++ family.kind.label]
  match family.sample with
  | some value => heading ++ [family.name ++ " " ++ toString value]
  | none => heading

/-- The lines of all families. -/
def Metrics.lines (metrics : Metrics) : List String :=
  metrics.families.flatMap MetricFamily.lines

end SourceAtlas
