import SourceAtlas.Graph.Assembly
import SourceAtlas.Proofs.FileMap

/-!
# What a graph is assembled from

A graph is determined by the facts of its files and the known files
(`Assembled`): every node holds the resolved facts of its file, and the
dependents are those of the edges. Both `build` and `update` give such graphs,
whatever results their nodes carried before.
-/

namespace SourceAtlas

namespace Graph.Node

variable {node : Node} {resolver : Resolver} {known : FileSet}

/-- What a file says on its own. -/
def facts (node : Node) : Node :=
  { file := node.file, imports := node.imports, exports := node.exports }

/-- A node apart from its dependents. -/
def bare (node : Node) : Node := { node with dependents := ∅ }

/-- Dependents are no facts of a node. -/
@[simp]
theorem facts_bare (node : Node) : node.bare.facts = node.facts := rfl

/-- The facts of a node are their own facts. -/
@[simp]
theorem facts_facts (node : Node) : node.facts.facts = node.facts := rfl

/-- Recording a resolution neither reads nor changes the facts and the dependents. -/
theorem facts_record (includeExternals : Bool) (node : Node) (resolution : Resolution) :
    (node.record includeExternals resolution).facts = node.facts := by
  cases resolution with
  | internal file => rfl
  | external package =>
    rw [record]
    split <;> rfl
  | unresolved specifier => rfl

/-- An answer is recorded without looking at the dependents. -/
theorem bare_record (includeExternals : Bool) (node : Node) (resolution : Resolution) :
    (node.record includeExternals resolution).bare =
      node.bare.record includeExternals resolution := by
  cases resolution with
  | internal file => rfl
  | external package =>
    rw [record, record]
    split <;> rfl
  | unresolved specifier => rfl

/-- Resolving the imports of a node leaves its facts. -/
@[simp]
theorem facts_resolved (node : Node) (resolver : Resolver) (known : FileSet) :
    (node.resolved resolver known).facts = node.facts := by
  have folded : ∀ (imports : List ImportFact) (start : Node),
      (imports.foldl (fun current fact => current.record resolver.includeExternals
        (resolver.resolve node.file fact.source known.contains)) start).facts = start.facts := by
    intro imports
    induction imports with
    | nil => intro start; rfl
    | cons fact rest inductionHypothesis =>
      intro start
      rw [List.foldl_cons, inductionHypothesis, facts_record]
  exact folded node.imports _

/-- Resolving forgets what a node held before, its dependents apart. -/
theorem bare_resolved (node : Node) (resolver : Resolver) (known : FileSet) :
    (node.resolved resolver known).bare = node.facts.resolved resolver known := by
  have folded : ∀ (imports : List ImportFact) (start : Node),
      (imports.foldl (fun current fact => current.record resolver.includeExternals
        (resolver.resolve node.file fact.source known.contains)) start).bare =
      imports.foldl (fun current fact => current.record resolver.includeExternals
        (resolver.resolve node.file fact.source known.contains)) start.bare := by
    intro imports
    induction imports with
    | nil => intro start; rfl
    | cons fact rest inductionHypothesis =>
      intro start
      rw [List.foldl_cons, inductionHypothesis, bare_record, List.foldl_cons]
  exact folded node.imports _

end Graph.Node

namespace ImportGraph

open SourceAtlas.Graph

variable {graph first second : ImportGraph} {resolver : Resolver} {known : FileSet}
  {facts : String → Option Node}

/-- A graph apart from the dependents of its nodes. -/
def bare (graph : ImportGraph) : ImportGraph := { nodes := graph.nodes.map fun _ node => node.bare }

/-- Dependents play no part in the neighbors. -/
theorem neighbors_bare (graph : ImportGraph) (file : String) :
    graph.bare.neighbors file = graph.neighbors file := by
  have contains : graph.bare.contains = graph.contains := by
    funext file
    simp [ImportGraph.contains, bare]
  have found : graph.bare.get? file = (graph.get? file).map Node.bare := by
    simp [get?, bare, Std.ExtTreeMap.getElem?_map]
  rw [neighbors, neighbors, found, contains]
  cases graph.get? file <;> rfl

/-- Dependents play no part in the edges. -/
theorem edges_bare (graph : ImportGraph) : graph.bare.edges = graph.edges := by
  have files : graph.bare.files = graph.files := Std.ExtTreeMap.keys_map
  rw [edges, edges, files]
  exact congrArg (List.flatMap · graph.files) (funext fun source => by rw [neighbors_bare])

/-- Going through the dependencies of all nodes meets the edges of the graph, in their order. -/
theorem reverseEdges_eq (graph : ImportGraph) :
    graph.reverseEdges =
      graph.edges.foldl (fun reverse edge => noteDependent edge.1 reverse edge.2) ∅ := by
  have files : graph.files = graph.nodes.toList.map Prod.fst :=
    Std.ExtTreeMap.map_fst_toList_eq_keys.symm
  rw [reverseEdges, edges, files, List.foldl_flatMap, List.foldl_map]
  refine List.foldl_ext _ _ _ fun reverse entry member => ?_
  obtain ⟨source, node⟩ := entry
  have found : graph.get? source = some node :=
    Std.ExtTreeMap.mem_toList_iff_getElem?_eq_some.mp member
  simp only [neighbors, found, List.foldl_map, List.foldl_filter]

/-- The dependents of a graph come from what it is apart from them. -/
theorem withDependents_bare (graph : ImportGraph) :
    graph.bare.withDependents = graph.withDependents := by
  have reverse : graph.bare.reverseEdges = graph.reverseEdges := by
    rw [reverseEdges_eq, reverseEdges_eq, edges_bare]
  rw [withDependents, withDependents, reverse]
  refine congrArg ImportGraph.mk (Std.ExtTreeMap.ext_getElem? fun file => ?_)
  simp only [bare, Std.ExtTreeMap.getElem?_map, Option.map_map]
  rfl

/-- New dependents leave everything else. -/
theorem bare_withDependents (graph : ImportGraph) : graph.withDependents.bare = graph.bare := by
  refine congrArg ImportGraph.mk (Std.ExtTreeMap.ext_getElem? fun file => ?_)
  simp only [withDependents, Std.ExtTreeMap.getElem?_map, Option.map_map]
  rfl

/-- A graph holds the resolved facts of its files, and its dependents are those of its edges. -/
structure Assembled (resolver : Resolver) (facts : String → Option Node) (known : FileSet)
    (graph : ImportGraph) : Prop where
  nodes : ∀ file : String, (graph.nodes[file]?).map Node.bare =
    (facts file).map fun node => node.facts.resolved resolver known
  dependents : graph.withDependents = graph

/-- Facts and known files determine the graph. -/
theorem Assembled.unique (one : Assembled resolver facts known first)
    (two : Assembled resolver facts known second) : first = second := by
  have same : first.bare = second.bare := by
    refine congrArg ImportGraph.mk (Std.ExtTreeMap.ext_getElem? fun file => ?_)
    rw [Std.ExtTreeMap.getElem?_map, Std.ExtTreeMap.getElem?_map, one.nodes, two.nodes]
  rw [← one.dependents, ← two.dependents, ← withDependents_bare first, same,
    withDependents_bare second]

/-- A graph with its dependents set is assembled from the facts its nodes hold. -/
theorem Assembled.of_nodes
    (nodes : ∀ file : String, (graph.nodes[file]?).map Node.bare =
      (facts file).map fun node => node.facts.resolved resolver known) :
    Assembled resolver facts known graph.withDependents where
  nodes file := by
    have same := congrArg (fun graph : ImportGraph => graph.nodes[file]?) (bare_withDependents graph)
    simp only [bare, Std.ExtTreeMap.getElem?_map] at same
    rw [same, nodes]
  dependents := by
    rw [← withDependents_bare graph.withDependents, bare_withDependents, withDependents_bare]

/-- A built graph is assembled from its nodes; among nodes of one file the last counts. -/
theorem assembled_build (resolver : Resolver) (nodes : List Node) (known : FileSet) :
    Assembled resolver (lastFor Node.file nodes) known (build resolver nodes known) := by
  refine .of_nodes fun file => ?_
  rw [FileMap.getElem?_foldl_insert Node.file fun node => node.resolved resolver known]
  simp [Node.bare_resolved, Function.comp_def]

/-- The facts after files were dropped and nodes were put in. -/
def revised (facts : String → Option Node) (removed : List String) (upserts : List Node)
    (file : String) : Option Node :=
  (lastFor Node.file upserts file).or (if file ∈ removed then none else facts file)

/-- An update gives the graph of the revised facts, provided that it resolves every node anew when
the known files are not those of before. -/
theorem Assembled.update {known' : FileSet} {fileSetChanged : Bool}
    (assembled : Assembled resolver facts known graph)
    (upserts : List Node) (removed : List String)
    (noticed : fileSetChanged = true ∨ known' = known) :
    Assembled resolver (revised facts removed upserts) known'
      (update resolver graph upserts removed known' fileSetChanged) := by
  refine .of_nodes fun file => ?_
  have inserted : (upserts.foldl (fun (map : FileMap Node) node => map.insert node.file node)
      (removed.foldl (fun (map : FileMap Node) file => map.erase file) graph.nodes))[file]? =
      (lastFor Node.file upserts file).or (if file ∈ removed then none else graph.nodes[file]?) := by
    have looked := FileMap.getElem?_foldl_insert Node.file id upserts
      (removed.foldl (fun (map : FileMap Node) file => map.erase file) graph.nodes) file
    rwa [FileMap.getElem?_foldl_erase, Option.map_id] at looked
  have touched : (Std.ExtTreeSet.ofList (upserts.map Node.file) compare).contains file =
      (lastFor Node.file upserts file).isSome := by
    rw [Bool.eq_iff_iff, isSome_lastFor]
    simp
  rw [Std.ExtTreeMap.getElem?_map, inserted, touched, revised]
  cases put : lastFor Node.file upserts file with
  | some node => simp [Node.bare_resolved]
  | none =>
    by_cases dropped : file ∈ removed
    · simp [dropped]
    · have held := assembled.nodes file
      cases stored : graph.nodes[file]? with
      | none =>
        rw [stored, Option.map_none, eq_comm, Option.map_eq_none_iff] at held
        simp [held]
      | some node =>
        rw [stored, Option.map_some, eq_comm, Option.map_eq_some_iff] at held
        obtain ⟨origin, source, resolvedBefore⟩ := held
        have sameFacts : node.facts = origin.facts := by
          rw [← Node.facts_bare, ← resolvedBefore, Node.facts_resolved, Node.facts_facts]
        -- An untouched node is resolved anew, or the known files are the same as before.
        rcases noticed with changed | same
        · simp [dropped, changed, source, Node.bare_resolved, sameFacts]
        · cases fileSetChanged with
          | true => simp [dropped, source, Node.bare_resolved, sameFacts]
          | false => simp [dropped, source, resolvedBefore, same]

end ImportGraph

end SourceAtlas
