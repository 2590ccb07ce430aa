import SourceAtlas.Graph.Report
import SourceAtlas.Json.Value

/-!
# The JSON form of graph reports

Other tools read cycles, figures and the graph itself in this form.
-/

namespace SourceAtlas.Graph

/-- The written cycle. -/
def Cycle.toJson (cycle : Cycle) : JsonValue :=
  .object [("files", .ofTexts cycle.files), ("severity", .text cycle.severity.label),
    ("type", .text cycle.shape.label)]

/-- The written figures. -/
def Statistics.toJson (figures : Statistics) : JsonValue :=
  .object [("total_files", .ofNat figures.totalFiles),
    ("total_dependencies", .ofNat figures.totalDependencies),
    ("average_dependencies", .ofFloat figures.averageDependencies),
    ("max_dependency_depth", .ofNat figures.maxDepth),
    ("circular_dependency_count", .ofNat figures.cycleCount),
    ("unreachable_file_count", .ofNat figures.unreachableCount)]

/-- The written analysis of a graph. -/
def Analysis.toJson (analysis : Analysis) : JsonValue :=
  .object [("entry_points", .ofTexts analysis.entryPoints),
    ("leaf_nodes", .ofTexts analysis.leafFiles),
    ("cycles", .array (analysis.cycles.map Cycle.toJson)),
    ("unreachable", .ofTexts analysis.unreachable),
    ("statistics", analysis.statistics.toJson)]

/-- The written analysis of a file. -/
def FileAnalysis.toJson (analysis : FileAnalysis) : JsonValue :=
  .object [("file_path", .text analysis.file),
    ("internal_dependencies", .ofTexts analysis.internal),
    ("external_dependencies", .ofTexts analysis.external),
    ("dependents", .ofTexts analysis.dependents),
    ("missing_imports", .ofTexts analysis.missing),
    ("duplicate_imports", .ofTexts analysis.duplicates),
    ("circular_dependencies", .array (analysis.cycles.map Cycle.toJson))]

/-- The written node of an exported graph. -/
def ExportedNode.toJson (node : ExportedNode) : JsonValue :=
  .object [("id", .text node.id), ("imports", .ofNat node.imports),
    ("exports", .ofNat node.exports), ("is_entry_point", .boolean node.isEntryPoint),
    ("is_leaf", .boolean node.isLeaf)]

/-- The written graph. -/
def Exported.toJson (graph : Exported) : JsonValue :=
  .object [("nodes", .array (graph.nodes.map ExportedNode.toJson)),
    ("edges", .array (graph.edges.map fun edge =>
      .object [("from", .text edge.1), ("to", .text edge.2)]))]

end SourceAtlas.Graph
