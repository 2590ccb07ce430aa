import SourceAtlas.Graph.Report
import SourceAtlas.Number.Total
import SourceAtlas.Proofs.Graph.Unreachable

/-!
# Views of the edges

A graph keeps who imports a file beside what the file imports, and other views
of the edges are computed from it: lists, counts, entry points, an export. After
every run of changes (`afterChanges`) they all describe the same edges
(`ExactViews`). Dependencies that are no nodes stay with their importer and
occur in none of the views.
-/

namespace SourceAtlas.ImportGraph

open SourceAtlas.Graph

/-! ## Changes -/

/-- A change of a graph. -/
inductive Change where
  /-- Start over from a list of edges. -/
  | ofEdges (edges : List (String × String))
  /-- Start over from the nodes of files and the files known. -/
  | build (resolver : Resolver) (nodes : List Node) (known : FileSet)
  /-- Drop files, put nodes in and resolve again. -/
  | update (resolver : Resolver) (revision : Revision)
  /-- Record one more dependency and set the dependents anew. -/
  | depend (source target : String)

/-- The graph after a change. -/
def Change.apply (graph : ImportGraph) : Change → ImportGraph
  | ofEdges edges => ImportGraph.ofEdges edges
  | build resolver nodes known => ImportGraph.build resolver nodes known
  | update resolver revision => afterRevision resolver graph revision
  | depend source target => (graph.addDependency source target).withDependents

/-- The graph after a run of changes of the empty one. -/
def afterChanges (changes : List Change) : ImportGraph := changes.foldl Change.apply empty

variable {graph : ImportGraph} {file source target : String} {node : Node}

/-- A graph without nodes is coherent. -/
theorem coherent_empty : empty.Coherent := coherent_ofEdges []

/-- One change leaves every node under its path and the dependents exact. -/
theorem Coherent.apply (coherent : graph.Coherent) (change : Change) :
    (change.apply graph).Coherent := by
  cases change with
  | ofEdges edges => exact coherent_ofEdges edges
  | build resolver nodes known => exact coherent_build resolver nodes known
  | update resolver revision => exact coherent_update resolver _ _ _ _ coherent.named
  | depend source target => exact (coherent.named.addDependency source target).coherent

/-- A graph is coherent after any changes. -/
theorem coherent_afterChanges (changes : List Change) : (afterChanges changes).Coherent := by
  refine List.foldlRecOn (motive := Coherent) changes Change.apply coherent_empty ?_
  intro graph coherent change _
  exact coherent.apply change

/-! ## Edges -/

/-- An edge is a dependency of a node on a node. -/
theorem imports_iff :
    graph.Imports source target ↔
      (∃ node, graph.get? source = some node ∧ target ∈ node.dependencies) ∧
        graph.contains target = true := by
  constructor
  · rintro ⟨node, found, depends, contained⟩
    exact ⟨⟨node, found, depends⟩, contained⟩
  · rintro ⟨⟨node, found, depends⟩, contained⟩
    exact ⟨node, found, depends, contained⟩

/-- The neighbors of a file come in strictly rising order. -/
theorem ordered_neighbors (graph : ImportGraph) (file : String) :
    (graph.neighbors file).Pairwise (· < ·) := by
  rw [neighbors]
  split
  · next node _ =>
    exact (FileSet.ordered_toList node.dependencies).filter _
  · exact .nil

/-- Edges are listed by their source and then by their target. -/
theorem ordered_edges (graph : ImportGraph) :
    graph.edges.Pairwise (Prod.Lex (· < ·) (· < ·)) := by
  rw [edges, List.pairwise_flatMap]
  constructor
  · intro source _
    rw [List.pairwise_map]
    exact (graph.ordered_neighbors source).imp fun below => .right source below
  · refine (FileMap.ordered_keys graph.nodes).imp fun {first second} below => ?_
    simp only [List.mem_map]
    rintro _ ⟨target, -, rfl⟩ _ ⟨other, -, rfl⟩
    exact .left target other below

/-- No edge is listed twice. -/
theorem nodup_edges (graph : ImportGraph) : graph.edges.Nodup := by
  refine graph.ordered_edges.imp fun {first second} below same => ?_
  subst same
  rcases Prod.lex_def.mp below with smaller | ⟨-, smaller⟩
  · exact String.lt_irrefl _ smaller
  · exact String.lt_irrefl _ smaller

/-! ## Nodes -/

/-- The nodes are listed in the order of their paths. -/
theorem Named.map_file_nodeList (named : graph.Named) :
    graph.nodeList.map Node.file = graph.files := FileMap.map_values_eq_keys named

/-- A listed node is found under its own file. -/
theorem Named.get?_of_mem_nodeList (named : graph.Named) (member : node ∈ graph.nodeList) :
    graph.get? node.file = some node := (FileMap.mem_values_iff_of_keyed named).mp member

/-- The entry points come in strictly rising order. -/
theorem Coherent.ordered_entryPoints (coherent : graph.Coherent) :
    graph.entryPoints.Pairwise (· < ·) := by
  refine List.Pairwise.sublist ?_ (FileMap.ordered_keys graph.nodes)
  change List.Sublist _ graph.files
  rw [← coherent.named.map_file_nodeList]
  exact List.filter_sublist.map Node.file

/-- An entry point is a node on which no node depends. -/
theorem Coherent.mem_entryPoints_iff (coherent : graph.Coherent) :
    file ∈ graph.entryPoints ↔
      graph.contains file = true ∧ ∀ source, ¬graph.Imports source file := by
  constructor
  · intro member
    obtain ⟨node, listed, rfl⟩ := List.mem_map.mp member
    obtain ⟨inside, vacant⟩ := List.mem_filter.mp listed
    have found := coherent.named.get?_of_mem_nodeList inside
    refine ⟨contains_iff_mem.mpr (Std.ExtTreeMap.mem_iff_isSome_getElem?.mpr
      (Option.isSome_of_eq_some found)), fun source edge => ?_⟩
    have dependent := (coherent.mem_dependents_iff found).mpr edge
    rw [Std.ExtTreeSet.isEmpty_iff.mp vacant] at dependent
    exact Std.ExtTreeSet.not_mem_empty dependent
  · rintro ⟨contained, unused⟩
    obtain ⟨node, found⟩ := exists_node contained
    refine coherent.mem_entryPoints found (Std.ExtTreeSet.isEmpty_iff.mpr ?_)
    refine Std.ExtTreeSet.ext_mem fun source => ?_
    simpa [coherent.mem_dependents_iff found] using unused source

/-- The dependents of all nodes, as edges. -/
def edgesByTarget (graph : ImportGraph) : List (String × String) :=
  graph.nodeList.flatMap fun node => node.dependents.toList.map fun source => (source, node.file)

/-- The edges listed by target are the imports. -/
theorem Coherent.mem_edgesByTarget_iff (coherent : graph.Coherent) :
    (source, target) ∈ graph.edgesByTarget ↔ graph.Imports source target := by
  simp only [edgesByTarget, List.mem_flatMap, List.mem_map, Prod.mk.injEq, Std.ExtTreeSet.mem_toList]
  constructor
  · rintro ⟨node, listed, _, dependent, rfl, rfl⟩
    exact (coherent.mem_dependents_iff (coherent.named.get?_of_mem_nodeList listed)).mp dependent
  · intro edge
    obtain ⟨node, found⟩ := exists_node edge.contains_target
    exact ⟨node, FileMap.mem_values_iff.mpr ⟨target, found⟩, source,
      (coherent.mem_dependents_iff found).mpr edge, rfl, coherent.named target node found⟩

/-- No edge is listed twice by target. -/
theorem Coherent.nodup_edgesByTarget (coherent : graph.Coherent) : graph.edgesByTarget.Nodup := by
  rw [edgesByTarget, List.Nodup, List.pairwise_flatMap]
  constructor
  · intro node _
    rw [List.pairwise_map]
    exact Std.ExtTreeSet.distinct_toList.imp fun differ same => differ (by simp [(Prod.mk.inj same).1])
  · have files : graph.files.Pairwise (· < ·) := FileMap.ordered_keys graph.nodes
    rw [← coherent.named.map_file_nodeList, List.pairwise_map] at files
    refine files.imp fun {first second} below => ?_
    simp only [List.mem_map]
    rintro _ ⟨source, -, rfl⟩ _ ⟨other, -, rfl⟩ same
    rw [(Prod.mk.inj same).2] at below
    exact String.lt_irrefl _ below

/-- A list made of parts is as long as they are together. -/
theorem length_flatMap_eq_total {α β : Type} (items : List α) (part : α → List β) :
    (items.flatMap part).length = total (items.map fun item => (part item).length) := by
  induction items with
  | nil => rfl
  | cons first rest inductionHypothesis =>
    rw [List.flatMap_cons, List.length_append, inductionHypothesis, List.map_cons, total]

/-- Every edge is counted once among the dependents. -/
theorem Coherent.total_size_dependents (coherent : graph.Coherent) :
    total (graph.nodeList.map fun node => node.dependents.size) = graph.edges.length := by
  have same : graph.edgesByTarget.Perm graph.edges := by
    refine (List.perm_ext_iff_of_nodup coherent.nodup_edgesByTarget graph.nodup_edges).mpr ?_
    rintro ⟨source, target⟩
    rw [coherent.mem_edgesByTarget_iff, mem_edges_iff]
  rw [← same.length_eq, edgesByTarget, length_flatMap_eq_total]
  simp

/-! ## All views -/

/-- The views of a graph describe the edges between its nodes: those dependencies of nodes that are
nodes themselves. -/
structure ExactViews (graph : ImportGraph) : Prop where
  file_eq : ∀ {file : String} {node : Node}, graph.get? file = some node → node.file = file
  mem_dependents_iff : ∀ {source target : String} {importer imported : Node},
    graph.get? source = some importer → graph.get? target = some imported →
      (source ∈ imported.dependents ↔ target ∈ importer.dependencies)
  contains_of_mem_dependents : ∀ {source target : String} {imported : Node},
    graph.get? target = some imported → source ∈ imported.dependents →
      graph.contains source = true
  entryPoints_ordered : graph.entryPoints.Pairwise (· < ·)
  mem_entryPoints_iff : ∀ {file : String}, file ∈ graph.entryPoints ↔
    graph.contains file = true ∧
      ∀ (source : String) (importer : Node), graph.get? source = some importer →
        file ∉ importer.dependencies
  edges_ordered : graph.edges.Pairwise (Prod.Lex (· < ·) (· < ·))
  mem_edges_iff : ∀ {source target : String}, (source, target) ∈ graph.edges ↔
    (∃ importer, graph.get? source = some importer ∧ target ∈ importer.dependencies) ∧
      graph.contains target = true
  exported_edges : graph.exported.edges = graph.edges
  total_size_dependents :
    total (graph.nodeList.map fun node => node.dependents.size) = graph.edges.length
  totalDependencies_eq : ∀ entries : List String,
    (graph.statistics entries).totalDependencies = graph.edges.length

/-- In a coherent graph all views show the same edges. -/
theorem Coherent.exactViews (coherent : graph.Coherent) : graph.ExactViews where
  file_eq found := coherent.named _ _ found
  mem_dependents_iff {source target importer imported} foundImporter foundImported := by
    have contained : graph.contains target = true :=
      contains_iff_mem.mpr (Std.ExtTreeMap.mem_iff_isSome_getElem?.mpr
        (Option.isSome_of_eq_some foundImported))
    rw [coherent.mem_dependents_iff foundImported, imports_iff, foundImporter]
    simp [contained]
  contains_of_mem_dependents found dependent :=
    ((coherent.mem_dependents_iff found).mp dependent).contains_source
  entryPoints_ordered := coherent.ordered_entryPoints
  mem_entryPoints_iff {file} := by
    rw [coherent.mem_entryPoints_iff]
    refine and_congr_right fun contained => forall_congr' fun source => ?_
    simp [imports_iff, contained]
  edges_ordered := graph.ordered_edges
  mem_edges_iff := mem_edges_iff.trans imports_iff
  exported_edges := rfl
  total_size_dependents := coherent.total_size_dependents
  totalDependencies_eq _ := rfl

/-- After every run of changes the dependents are the reverse of the dependencies between nodes, and
every view lists or counts the same edges. -/
theorem exactViews_afterChanges (changes : List Change) : (afterChanges changes).ExactViews :=
  (coherent_afterChanges changes).exactViews

end SourceAtlas.ImportGraph
