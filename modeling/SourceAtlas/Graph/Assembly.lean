import SourceAtlas.Graph.Basic
import SourceAtlas.Graph.Resolution

/-!
# Assembling a graph from file facts

`build` resolves every node. `update` drops and inserts nodes and resolves
again only what may have changed: every node when files appeared or vanished,
else the inserted ones.
-/

namespace SourceAtlas.Graph

/-- Add what one import resolved to. -/
def Node.record (includeExternals : Bool) (node : Node) : Resolution → Node
  | .internal file => { node with dependencies := node.dependencies.insert file }
  | .external package =>
    if includeExternals then { node with externals := node.externals.insert package } else node
  | .unresolved specifier => { node with unresolved := node.unresolved ++ [specifier] }

/-- Resolve the imports of a node against the known files, forgetting earlier results. -/
def Node.resolved (node : Node) (resolver : Resolver) (known : FileSet) : Node :=
  let start := { node with dependencies := ∅, externals := ∅, unresolved := [] }
  node.imports.foldl (fun current fact =>
    current.record resolver.includeExternals
      (resolver.resolve node.file fact.source known.contains)) start

end SourceAtlas.Graph

namespace SourceAtlas.ImportGraph

open SourceAtlas.Graph

/-- The graph of the given nodes; of two nodes for one file the last wins. -/
def build (resolver : Resolver) (nodes : List Node) (known : FileSet) : ImportGraph :=
  let inserted := nodes.foldl
    (fun (map : FileMap Node) node => map.insert node.file (node.resolved resolver known)) ∅
  withDependents { nodes := inserted }

/-- Drop files, insert nodes, and resolve again. -/
def update (resolver : Resolver) (graph : ImportGraph) (upserts : List Node)
    (removed : List String) (known : FileSet) (fileSetChanged : Bool) : ImportGraph :=
  let kept := removed.foldl (fun (map : FileMap Node) file => map.erase file) graph.nodes
  let inserted := upserts.foldl (fun (map : FileMap Node) node => map.insert node.file node) kept
  let touched : FileSet := Std.ExtTreeSet.ofList (upserts.map Node.file) compare
  let resolved := inserted.map fun file node =>
    if fileSetChanged || touched.contains file then node.resolved resolver known else node
  withDependents { nodes := resolved }

end SourceAtlas.ImportGraph
