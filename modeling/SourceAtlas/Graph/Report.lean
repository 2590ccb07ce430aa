import SourceAtlas.Graph.Cycle
import SourceAtlas.Graph.Depth
import SourceAtlas.Graph.Reach

/-!
# Reports on an import graph

Statistics of the whole graph, the analysis of one file, and the plain list of
nodes and edges that other tools read.
-/

namespace SourceAtlas.Graph

/-- Figures of a graph. -/
structure Statistics where
  totalFiles : Nat
  totalDependencies : Nat
  averageDependencies : Float
  maxDepth : Nat
  cycleCount : Nat
  unreachableCount : Nat

/-- What is known of a graph as a whole. -/
structure Analysis where
  entryPoints : List String
  leafFiles : List String
  cycles : List Cycle
  unreachable : List String
  statistics : Statistics

/-- What is known of one file. -/
structure FileAnalysis where
  file : String
  internal : List String
  external : List String
  dependents : List String
  missing : List String
  duplicates : List String
  cycles : List Cycle
  deriving DecidableEq, Repr

/-- A node as it is exported. -/
structure ExportedNode where
  id : String
  imports : Nat
  exports : Nat
  isEntryPoint : Bool
  isLeaf : Bool
  deriving DecidableEq, Repr

/-- A graph as it is exported. -/
structure Exported where
  nodes : List ExportedNode
  edges : List (String × String)
  deriving DecidableEq, Repr

/-- Specifiers that name a package. -/
def isBareSpecifier (specifier : String) : Bool :=
  specifier ≠ "" && !Text.startsWith "." specifier && !Text.startsWith "/" specifier

end SourceAtlas.Graph

namespace SourceAtlas.ImportGraph

open SourceAtlas.Graph

/-- Figures of the graph, with reachability measured from `entries`. -/
def statistics (graph : ImportGraph) (entries : List String) : Statistics where
  totalFiles := graph.size
  totalDependencies := graph.edges.length
  averageDependencies :=
    if graph.size = 0 then 0.0 else graph.edges.length.toFloat / graph.size.toFloat
  maxDepth := graph.maxDepth
  cycleCount := graph.cycles.length
  unreachableCount := (graph.unreachable entries).length

/-- The analysis from the given entries, or from the inferred ones when none are given. -/
def analyze (graph : ImportGraph) (entries : List String) : Analysis :=
  let entries := if entries.isEmpty then graph.inferredEntries else entries
  { entryPoints := graph.entryPoints
    leafFiles := graph.leafFiles
    cycles := graph.cycles
    unreachable := graph.unreachable entries
    statistics := graph.statistics entries }

/-- The distinct members of a list in order. -/
def sortedSet (texts : List String) : List String :=
  (Std.ExtTreeSet.ofList texts compare).toList

/-- The analysis of one node. -/
def analyzeFile? (graph : ImportGraph) (file : String) : Option FileAnalysis :=
  (graph.get? file).map fun node =>
    let sources := node.imports.map ImportFact.source
    { file := node.file
      internal := graph.neighbors file
      external := sortedSet (sources.filter isBareSpecifier)
      dependents := node.dependents.toList
      missing := node.unresolved
      duplicates := sortedSet (sources.filter fun source => 1 < sources.count source)
      cycles := graph.cycles.filter fun cycle => cycle.contains file }

/-- The nodes and edges of the graph. -/
def exported (graph : ImportGraph) : Exported where
  nodes := graph.nodeList.map fun node =>
    { id := node.file
      imports := node.imports.length
      exports := node.exports.length
      isEntryPoint := node.isEntryPoint
      isLeaf := node.isLeaf }
  edges := graph.edges

end SourceAtlas.ImportGraph
