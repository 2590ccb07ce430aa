import SourceAtlas.Command.Line
import SourceAtlas.Command.Report
import SourceAtlas.Command.Session
import SourceAtlas.Graph.Format
import SourceAtlas.Index.Exposition
import SourceAtlas.Json.Indented

/-!
# Running commands

Each command is a session that ends with the text it prints.
-/

namespace SourceAtlas.Command

open Session

variable {σ : Type}

/-- Build or refresh the index, save it and tell what changed. -/
def runIndex (around : Surroundings σ) (force : Bool) (now : Int) : Session σ String := do
  let index ← attachProvider around (← openIndex around)
  let (index, stats) ← build index { force } now
  save index now
  return Report.text ([Report.root index.root] ++ Report.pass stats ++ Report.eviction stats) ++
    Report.failures index

/-- Search by meaning. -/
def runSearch (around : Surroundings σ) (query : String) (limit : Option Nat) (now : Int) :
    Session σ String := do
  let index ← attachProvider around (← openIndex around)
  let index ← refresh around index now
  let limit := limit.getD index.settings.search.limit
  let (found, _, workspace) := index.search (← get) query limit now
  set workspace
  let hits ← ofIndex found
  return Report.text (if hits.isEmpty then
      Report.noResults query index.settings.embeddings.relevanceFloor
    else Report.results query hits)

/-- The query of a request; what it leaves open comes from the settings. -/
def symbolQuery (settings : SymbolSettings) (request : SymbolRequest) : SymbolQuery where
  text := request.query
  kinds := request.kinds
  fuzzy := settings.fuzzy && !request.exact
  caseSensitive := settings.caseSensitive || request.caseSensitive
  limit := request.limit.getD settings.limit
  filePattern := request.filePattern

/-- Search by name. -/
def runSymbols (around : Surroundings σ) (request : SymbolRequest) (now : Int) :
    Session σ String := do
  let index ← openFresh around now
  let (found, workspace) :=
    index.searchSymbols (← get) (symbolQuery index.settings.symbols request)
  set workspace
  return Report.text (Report.rankedSymbols request.query (← ofIndex found))

/-- Find where a name is used. -/
def runUsages (around : Surroundings σ) (name : String) (allFiles crossReference : Bool)
    (now : Int) : Session σ String := do
  let index ← openFresh around now
  let files := (← get).files
  if crossReference then
    return Report.text (Report.crossReference name (← ofIndex (index.crossReferences files name)))
  else
    let scope := if allFiles then UsageScope.allFiles else .definingFiles
    return Report.text (Report.usages name (← ofIndex (index.usages files name scope)))

/-- Report on the import graph. -/
def runDeps (around : Surroundings σ) (request : DependencyRequest) (now : Int) :
    Session σ String := do
  let index ← openFresh around now
  let files := (← get).files
  if request.drawing then
    return Report.text [(← ofIndex index.exported).toJson.renderIndented 0]
  else
    match request.file with
    | some file =>
      match ← ofIndex (index.analyzeFile files file) with
      | some found => return Report.text (Report.fileAnalysis found)
      | none => return Report.text [file ++ " is not in the dependency graph"]
    | none => return Report.text (Report.analysis (← ofIndex (index.analyze files request.entries)))

/-- Show the state of the saved index, or the metrics. -/
def runStatus (around : Surroundings σ) (exposition : Bool) (now : Int) : Session σ String := do
  let index ← openIndex around
  let metrics := (← get).metrics
  return Report.text (if exposition then metrics.lines else Report.status index metrics now)

/-- Drop the saved index. -/
def runClear (around : Surroundings σ) : Session σ String := do
  let index ← openIndex around
  let (result, index, workspace) := index.clear (← get)
  set workspace
  ofIndex result
  return Report.text ["Cleared index for " ++ index.root]

/-- Run a command. -/
def run (around : Surroundings σ) (now : Int) : Command → Session σ String
  | .index force => runIndex around force now
  | .search query limit => runSearch around query limit now
  | .symbols request => runSymbols around request now
  | .usages name allFiles crossReference => runUsages around name allFiles crossReference now
  | .deps request => runDeps around request now
  | .status exposition => runStatus around exposition now
  | .clear => runClear around

end SourceAtlas.Command
