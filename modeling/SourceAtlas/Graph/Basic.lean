import Std.Data.ExtTreeMap
import Std.Data.ExtTreeSet
import SourceAtlas.Facts

/-!
# The import graph

A node per source file, keyed by its path. A node keeps the imports as they
were written beside what they resolved to; an edge runs from a file to each
of its dependencies that is itself a node.
-/

namespace SourceAtlas

/-- A finite map keyed by path (or by any other text), ordered by key. -/
abbrev FileMap (α : Type) := Std.ExtTreeMap String α

/-- A finite set of paths (or other texts) in order. -/
abbrev FileSet := Std.ExtTreeSet String

namespace Graph

/-- A file of the graph. -/
structure Node where
  file : String
  imports : List ImportFact := []
  exports : List ExportFact := []
  /-- Files that imports resolved to, whether or not they are nodes. -/
  dependencies : FileSet := ∅
  /-- Packages outside the tree. -/
  externals : FileSet := ∅
  /-- Specifiers that name a path with no file. -/
  unresolved : List String := []
  /-- Nodes that depend on this one. -/
  dependents : FileSet := ∅
  deriving DecidableEq

/-- Nothing in the graph imports the file. -/
def Node.isEntryPoint (node : Node) : Bool := node.dependents.isEmpty

/-- The file imports nothing that was found. -/
def Node.isLeaf (node : Node) : Bool := node.dependencies.isEmpty

/-- Take steps until there is none left or the fuel is spent. -/
def advance {σ : Type} (step : σ → Option σ) : Nat → σ → σ
  | 0, state => state
  | fuel + 1, state =>
    match step state with
    | some next => advance step fuel next
    | none => state

end Graph

/-- Files and what they import. -/
structure ImportGraph where
  nodes : FileMap Graph.Node := ∅
  deriving DecidableEq

namespace ImportGraph

/-- The graph without files. -/
def empty : ImportGraph := {}

/-- The paths of all nodes in order. -/
def files (graph : ImportGraph) : List String := graph.nodes.keys

/-- The nodes in path order. -/
def nodeList (graph : ImportGraph) : List Graph.Node := graph.nodes.values

/-- The node of a path. -/
def get? (graph : ImportGraph) (file : String) : Option Graph.Node := graph.nodes[file]?

/-- Whether a path is a node. -/
def contains (graph : ImportGraph) (file : String) : Bool := graph.nodes.contains file

/-- The number of nodes. -/
def size (graph : ImportGraph) : Nat := graph.nodes.size

/-- The dependencies of a file that are nodes, in order. -/
def neighbors (graph : ImportGraph) (file : String) : List String :=
  match graph.get? file with
  | some node => node.dependencies.toList.filter graph.contains
  | none => []

/-- Every edge between nodes, ordered by source and then by target. -/
def edges (graph : ImportGraph) : List (String × String) :=
  graph.files.flatMap fun source => (graph.neighbors source).map fun target => (source, target)

/-- The files that nothing imports. -/
def entryPoints (graph : ImportGraph) : List String :=
  (graph.nodeList.filter Graph.Node.isEntryPoint).map Graph.Node.file

/-- The files that import nothing that was found. -/
def leafFiles (graph : ImportGraph) : List String :=
  (graph.nodeList.filter Graph.Node.isLeaf).map Graph.Node.file

/-- Enough steps for a search of the graph: each file is tried as a root, opened and closed at most
once, and each edge is inspected at most once. -/
def searchSteps (graph : ImportGraph) : Nat := 3 * graph.size + graph.edges.length

/-- Note that `source` imports `target`. -/
def noteDependent (source : String) (reverse : FileMap FileSet) (target : String) :
    FileMap FileSet :=
  reverse.alter target fun known => some ((known.getD ∅).insert source)

/-- The files that import each node, read off the dependencies of all nodes. -/
def reverseEdges (graph : ImportGraph) : FileMap FileSet :=
  graph.nodes.toList.foldl
    (fun reverse (source, node) =>
      node.dependencies.toList.foldl
        (fun reverse target =>
          if graph.contains target then noteDependent source reverse target else reverse) reverse) ∅

/-- Set every node's `dependents` from the edges. -/
def withDependents (graph : ImportGraph) : ImportGraph :=
  let reverse := graph.reverseEdges
  { nodes := graph.nodes.map fun file node =>
      { node with dependents := (reverse[file]?).getD ∅ } }

/-- Make `file` a node unless it is one. -/
def ensureNode (graph : ImportGraph) (file : String) : ImportGraph :=
  { nodes := graph.nodes.insertIfNew file { file } }

/-- Record that `source` depends on `target`, when `source` is a node. -/
def addDependency (graph : ImportGraph) (source target : String) : ImportGraph :=
  { nodes := graph.nodes.modify source fun node =>
      { node with dependencies := node.dependencies.insert target } }

/-- The graph of a list of edges. -/
def ofEdges (edges : List (String × String)) : ImportGraph :=
  (edges.foldl (fun graph edge =>
    ((graph.ensureNode edge.1).ensureNode edge.2).addDependency edge.1 edge.2) empty).withDependents

end ImportGraph

end SourceAtlas
