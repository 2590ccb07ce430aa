import SourceAtlas.Graph.Report
import SourceAtlas.Proofs.Graph.Cycles
import SourceAtlas.Proofs.Graph.Reach
import SourceAtlas.Proofs.Graph.Rebuild
import SourceAtlas.Proofs.Symbol.Table

/-!
# Files that no inferred entry reaches

Without entries given, an analysis starts from the files that nothing imports
and from those that are entries by name. Whatever imports a file that is left
out is left out as well, so the way back from it along imports never ends, and
in a finite graph it runs into a loop. `Coherent` is what every graph of the
program is: nodes stand under their own paths and know who imports them.
-/

namespace SourceAtlas.ImportGraph

open Relation SourceAtlas.Graph

variable {graph : ImportGraph} {file source target other : String} {node : Node}

/-! ## Graphs of the program -/

/-- Every node stands under its own path. -/
def Named (graph : ImportGraph) : Prop :=
  ∀ (file : String) (node : Node), graph.get? file = some node → node.file = file

/-- Every node stands under its own path, and the dependents are those of the edges. The type of
graphs does not say so, since a graph that is read from a file may be anything; the graph of a live
index is coherent by `Index.Lived.coherent`. -/
structure Coherent (graph : ImportGraph) : Prop where
  named : graph.Named
  exact : graph.withDependents = graph

/-- A graph without nodes has no node under a wrong file. -/
theorem named_empty : empty.Named := by
  intro file node found
  simp [get?, empty] at found

/-- A node put in under its own file keeps every node under its own. -/
theorem Named.insert (named : graph.Named) (own : node.file = file) :
    Named { nodes := graph.nodes.insert file node } := by
  intro path stored found
  rw [get?, Std.ExtTreeMap.getElem?_insert] at found
  split at found
  next same =>
    cases found
    exact own.trans (Std.LawfulEqCmp.eq_of_compare same)
  next other => exact named path stored found

/-- Erasing a node keeps every other one under its own file. -/
theorem Named.erase (named : graph.Named) (file : String) :
    Named { nodes := graph.nodes.erase file } := by
  intro path stored found
  rw [get?, Std.ExtTreeMap.getElem?_erase] at found
  split at found
  next same => cases found
  next other => exact named path stored found

/-- What changes nodes without touching their paths keeps them under their own. -/
theorem Named.map (named : graph.Named) {change : String → Node → Node}
    (own : ∀ file node, (change file node).file = node.file) :
    Named { nodes := graph.nodes.map change } := by
  intro path stored found
  rw [get?, Std.ExtTreeMap.getElem?_map, Option.map_eq_some_iff] at found
  obtain ⟨before, held, rfl⟩ := found
  rw [own, named path before held]

/-- A bare node stands under its own file. -/
theorem Named.ensureNode (named : graph.Named) (file : String) : (graph.ensureNode file).Named := by
  intro path stored found
  rw [ImportGraph.ensureNode, get?, Std.ExtTreeMap.getElem?_insertIfNew] at found
  split at found
  next fresh =>
    cases found
    exact Std.LawfulEqCmp.eq_of_compare fresh.1
  next => exact named path stored found

/-- A new edge keeps every node under its own file. -/
theorem Named.addDependency (named : graph.Named) (source target : String) :
    (graph.addDependency source target).Named := by
  intro path stored found
  rw [ImportGraph.addDependency, get?, Std.ExtTreeMap.getElem?_modify] at found
  split at found
  next same =>
    obtain ⟨before, held, rfl⟩ := Option.map_eq_some_iff.mp found
    exact (named source before held).trans (Std.LawfulEqCmp.eq_of_compare same)
  next => exact named path stored found

/-- Setting the dependents once is enough. -/
theorem Named.coherent (named : graph.Named) : graph.withDependents.Coherent where
  named := named.map fun _ _ => rfl
  exact := by
    rw [← withDependents_bare graph.withDependents, bare_withDependents, withDependents_bare]

/-- Resolving the imports of a node leaves its file. -/
theorem file_resolved (node : Node) (resolver : Resolver) (known : FileSet) :
    (node.resolved resolver known).file = node.file := by
  have facts : (node.resolved resolver known).facts.file = node.facts.file :=
    congrArg Node.file (Node.facts_resolved node resolver known)
  exact facts

/-- A built graph is coherent. -/
theorem coherent_build (resolver : Resolver) (nodes : List Node) (known : FileSet) :
    (build resolver nodes known).Coherent := by
  refine Named.coherent ?_
  exact List.foldlRecOn nodes (motive := fun map => Named { nodes := map }) _ named_empty
    fun _ named node _ => named.insert (file_resolved node resolver known)

/-- An update makes a graph coherent whose nodes stand under their files. -/
theorem coherent_update (resolver : Resolver) (upserts : List Node) (removed : List String)
    (known : FileSet) (fileSetChanged : Bool) (named : graph.Named) :
    (update resolver graph upserts removed known fileSetChanged).Coherent := by
  have kept : Named (.mk (removed.foldl (fun (map : FileMap Node) file => map.erase file)
      graph.nodes)) :=
    List.foldlRecOn removed _ (motive := fun map => Named (.mk map)) named
      fun _ named file _ => named.erase file
  have inserted := List.foldlRecOn upserts
    (fun (map : FileMap Node) node => map.insert node.file node)
    (motive := fun map => Named (.mk map)) kept fun _ named _ _ => named.insert rfl
  refine Named.coherent (inserted.map fun file node => ?_)
  split
  · exact file_resolved node resolver known
  · rfl

/-- A graph made of edges is coherent. -/
theorem coherent_ofEdges (edges : List (String × String)) : (ofEdges edges).Coherent :=
  Named.coherent <| List.foldlRecOn edges (motive := Named) _ named_empty
    fun _ named edge _ => ((named.ensureNode edge.1).ensureNode edge.2).addDependency edge.1 edge.2

/-! ## Dependents -/

/-- The listed edges are the imports. -/
theorem mem_edges_iff : (source, target) ∈ graph.edges ↔ graph.Imports source target := by
  simp only [edges, List.mem_flatMap, List.mem_map, Prod.mk.injEq]
  constructor
  · rintro ⟨_, -, _, edge, rfl, rfl⟩
    exact mem_neighbors_iff.mp edge
  · intro edge
    exact ⟨source, mem_files_iff.mpr edge.contains_source, target, mem_neighbors_iff.mpr edge,
      rfl, rfl⟩

/-- The reverse edges group the importers of a file under it. -/
theorem holds_reverseEdges :
    Buckets.Holds graph.reverseEdges target source ↔ graph.Imports source target := by
  have folded : ∀ (edges : List (String × String)) (start : Buckets),
      Buckets.Holds (edges.foldl (fun reverse edge => Buckets.add reverse edge.2 edge.1) start)
          target source ↔ (source, target) ∈ edges ∨ start.Holds target source := by
    intro edges
    induction edges with
    | nil => simp
    | cons first rest inductionHypothesis =>
      intro start
      have met : first.2 = target ∧ first.1 = source ↔ (source, target) = first := by
        rw [Prod.ext_iff, and_comm, eq_comm, @eq_comm _ target]
      rw [List.foldl_cons, inductionHypothesis, Buckets.holds_add, List.mem_cons, met,
        or_left_comm, or_assoc]
  have grouped : Buckets.Holds graph.reverseEdges target source ↔ _ :=
    reverseEdges_eq graph ▸ folded graph.edges ∅
  rw [grouped, mem_edges_iff]
  simp

/-- The dependents of a node are the files that import it. -/
theorem Coherent.mem_dependents_iff (coherent : graph.Coherent)
    (found : graph.get? file = some node) :
    source ∈ node.dependents ↔ graph.Imports source file := by
  have same := congrArg (fun graph : ImportGraph => graph.get? file) coherent.exact
  simp only [get?, withDependents, Std.ExtTreeMap.getElem?_map] at same found
  rw [found, Option.map_some] at same
  have dependents : (graph.reverseEdges[file]?).getD ∅ = node.dependents :=
    congrArg Node.dependents (Option.some.inj same)
  rw [← dependents]
  exact holds_reverseEdges

/-- A file that a graph contains has a node. -/
theorem exists_node (contained : graph.contains file = true) :
    ∃ node, graph.get? file = some node :=
  Option.isSome_iff_exists.mp
    (Std.ExtTreeMap.mem_iff_isSome_getElem?.mp (contains_iff_mem.mp contained))

/-- A file that nothing imports is an entry point. -/
theorem Coherent.mem_entryPoints (coherent : graph.Coherent)
    (found : graph.get? file = some node) (vacant : node.dependents.isEmpty = true) :
    file ∈ graph.entryPoints := by
  refine List.mem_map.mpr ⟨node, List.mem_filter.mpr ⟨?_, vacant⟩, coherent.named file node found⟩
  exact FileMap.mem_values_iff.mpr ⟨file, found⟩

/-- Entries are inferred from having no dependents, or by the conventions for names. -/
theorem mem_inferredEntries_iff :
    file ∈ graph.inferredEntries ↔
      file ∈ graph.entryPoints ∨ graph.contains file = true ∧ isConventionalEntry file = true := by
  rw [inferredEntries, Std.ExtTreeSet.mem_toList, Std.ExtTreeSet.mem_insertMany_list,
    Std.ExtTreeSet.mem_ofList, List.contains_iff_mem, List.contains_iff_mem, List.mem_filter,
    mem_files_iff]

/-! ## The way back along imports -/

/-- In a set of nodes each of which is imported by another one of the set, a loop leads to every
file. -/
theorem exists_cycle_leading_to {among : String → Prop}
    (contained : ∀ file, among file → graph.contains file = true)
    (preceded : ∀ file, among file → ∃ source, among source ∧ graph.Imports source file)
    (member : among file) :
    ∃ cycle, graph.IsImportCycle cycle ∧ (∀ other ∈ cycle, among other) ∧
      ∃ other ∈ cycle, ReflTransGen graph.Imports other file := by
  -- The way back is extended until it meets itself; it cannot have more files than the graph.
  suffices extended : ∀ (room : Nat) (first : String) (rest : List String),
      graph.size < room + (first :: rest).length → (first :: rest).Nodup →
      (first :: rest).IsChain graph.Imports → (∀ other ∈ first :: rest, among other) →
      (∀ other ∈ first :: rest, ReflTransGen graph.Imports other file) →
      ∃ cycle, graph.IsImportCycle cycle ∧ (∀ other ∈ cycle, among other) ∧
        ∃ other ∈ cycle, ReflTransGen graph.Imports other file by
    exact extended graph.size file [] (by simp) (List.nodup_singleton file)
      (List.isChain_singleton file) (by simpa using member) (by simp [ReflTransGen.refl])
  intro room
  induction room with
  | zero =>
    intro first rest long nodup _ inside _
    have short := length_le_size nodup fun other listed => contained other (inside other listed)
    omega
  | succ room inductionHypothesis =>
    intro first rest long nodup chain inside leads
    obtain ⟨source, sourceInside, edge⟩ := preceded first (inside first (.head _))
    by_cases met : source ∈ first :: rest
    · obtain ⟨before, behind, split⟩ := List.append_of_mem met
      have cut : before ++ [source] <+: first :: rest := ⟨behind, by simp [split]⟩
      have starts : (before ++ [source]).head? = some first := by
        cases before with
        | nil =>
          cases split
          rfl
        | cons head tail =>
          cases split
          rfl
      refine ⟨before ++ [source], ⟨?_, ?_, ?_, first, source, starts, by simp, edge⟩, ?_,
        source, by simp, leads source met⟩
      · exact nodup.sublist cut.sublist
      · exact fun other listed => contained other (inside other (cut.subset listed))
      · exact List.IsChain.prefix chain cut
      · exact fun other listed => inside other (cut.subset listed)
    · have shorter : graph.size < room + (source :: first :: rest).length := by
        simp only [List.length_cons] at *
        omega
      refine inductionHypothesis source (first :: rest) shorter
        (List.nodup_cons.mpr ⟨met, nodup⟩) (List.isChain_cons_cons.mpr ⟨edge, chain⟩)
        (List.forall_mem_cons.mpr ⟨sourceInside, inside⟩)
        (List.forall_mem_cons.mpr ⟨?_, leads⟩)
      exact .head edge (leads first (.head _))

/-- A cycle is reported when a file reaches itself: with none, depths fall along every import. -/
theorem cycles_ne_nil_of_reaches_itself (reaches : TransGen graph.Imports file file) :
    graph.cycles ≠ [] := by
  intro none
  refine Nat.lt_irrefl _ (searchDepth_lt_of_transGen graph (fun edge => ?_) reaches)
  refine edge.falls_or_closes_cycle.resolve_right ?_
  rintro ⟨cycle, reported, -⟩
  rw [none] at reported
  cases reported

/-! ## What the inferred entries leave out -/

/-- What the inferred entries do not reach is no entry by convention. -/
theorem not_conventional_of_unreachable (left : file ∈ graph.unreachable graph.inferredEntries) :
    isConventionalEntry file = false := by
  obtain ⟨contained, unreached⟩ := mem_unreachable_iff.mp left
  refine Bool.eq_false_iff.mpr fun conventional => unreached ⟨file, ?_, contained, .refl⟩
  exact mem_inferredEntries_iff.mpr (.inr ⟨contained, conventional⟩)

/-- What imports a file that is left out is left out as well. -/
theorem unreachable_of_imports {entries : List String} (edge : graph.Imports source file)
    (left : file ∈ graph.unreachable entries) : source ∈ graph.unreachable entries := by
  refine mem_unreachable_iff.mpr ⟨edge.contains_source, ?_⟩
  rintro ⟨entry, listed, contained, walk⟩
  exact (mem_unreachable_iff.mp left).2 ⟨entry, listed, contained, walk.tail edge⟩

/-- What the inferred entries do not reach has a dependent. -/
theorem Coherent.exists_dependent (coherent : graph.Coherent)
    (found : graph.get? file = some node)
    (left : file ∈ graph.unreachable graph.inferredEntries) :
    ∃ source, source ∈ node.dependents := by
  obtain ⟨contained, unreached⟩ := mem_unreachable_iff.mp left
  by_contra none
  have vacant : node.dependents.isEmpty = true := by
    rw [Std.ExtTreeSet.isEmpty_iff]
    refine Std.ExtTreeSet.ext_mem fun source => ?_
    simpa using not_exists.mp none source
  refine unreached ⟨file, ?_, contained, .refl⟩
  exact mem_inferredEntries_iff.mpr (.inl (coherent.mem_entryPoints found vacant))

/-- A file that an analysis without given entries lists as unreachable is no entry by name, has
dependents, all of them unreachable, and lies on or behind a loop of unreachable files. So an
unreachable file comes with a reported cycle, and without a loop there is none. -/
theorem Coherent.unreachable_behind_loops (coherent : graph.Coherent) :
    (∀ file ∈ (graph.analyze []).unreachable,
      isConventionalEntry file = false ∧
      (∃ node, graph.get? file = some node ∧ (∃ other, other ∈ node.dependents) ∧
        ∀ other ∈ node.dependents, other ∈ (graph.analyze []).unreachable) ∧
      ∃ cycle, graph.IsImportCycle cycle ∧
        (∀ other ∈ cycle, other ∈ (graph.analyze []).unreachable) ∧
        ∃ other ∈ cycle, ReflTransGen graph.Imports other file) ∧
    ((graph.analyze []).unreachable ≠ [] → (graph.analyze []).cycles ≠ []) ∧
    ((∀ file, ¬ TransGen graph.Imports file file) → (graph.analyze []).unreachable = []) := by
  have inferred : (graph.analyze []).unreachable = graph.unreachable graph.inferredEntries := rfl
  rw [inferred]
  have behind : ∀ file ∈ graph.unreachable graph.inferredEntries,
      ∃ cycle, graph.IsImportCycle cycle ∧
        (∀ other ∈ cycle, other ∈ graph.unreachable graph.inferredEntries) ∧
        ∃ other ∈ cycle, ReflTransGen graph.Imports other file := by
    intro file left
    refine exists_cycle_leading_to (fun other left => (mem_unreachable_iff.mp left).1) ?_ left
    intro other left
    obtain ⟨node, found⟩ := exists_node (mem_unreachable_iff.mp left).1
    obtain ⟨source, listed⟩ := coherent.exists_dependent found left
    have edge := (coherent.mem_dependents_iff found).mp listed
    exact ⟨source, unreachable_of_imports edge left, edge⟩
  have looped : ∀ file ∈ graph.unreachable graph.inferredEntries,
      ∃ other, TransGen graph.Imports other other := by
    intro file left
    obtain ⟨cycle, isCycle, -, other, member, -⟩ := behind file left
    exact ⟨other, isCycle.reaches_itself member⟩
  refine ⟨fun file left => ⟨not_conventional_of_unreachable left, ?_, behind file left⟩, ?_, ?_⟩
  · obtain ⟨node, found⟩ := exists_node (mem_unreachable_iff.mp left).1
    refine ⟨node, found, coherent.exists_dependent found left, fun other listed => ?_⟩
    exact unreachable_of_imports ((coherent.mem_dependents_iff found).mp listed) left
  · intro some
    obtain ⟨file, left⟩ := List.exists_mem_of_ne_nil _ some
    obtain ⟨other, reaches⟩ := looped file left
    exact cycles_ne_nil_of_reaches_itself reaches
  · intro acyclic
    refine List.eq_nil_iff_forall_not_mem.mpr fun file left => ?_
    obtain ⟨other, reaches⟩ := looped file left
    exact acyclic other reaches

/-- Two files that import each other, one behind them, one alone and an entry by name that imports
itself. -/
def islandGraph : ImportGraph :=
  build (.ofExtensions [".ts"] false)
    [importer "a.ts" ["./b"] [], importer "b.ts" ["./a", "./c"] [], importer "c.ts" [] [],
      importer "d.ts" [] [], importer "main.ts" ["./main"] []]
    (.ofList ["a.ts", "b.ts", "c.ts", "d.ts", "main.ts"] compare)

/-- The loop and the file behind it are unreachable; the entry by name is not, though no other file
imports it. -/
theorem islandGraph_unreachable :
    (islandGraph.analyze []).unreachable = ["a.ts", "b.ts", "c.ts"] ∧
      (islandGraph.analyze []).cycles ≠ [] ∧
      ∃ cycle, islandGraph.IsImportCycle cycle ∧
        (∀ other ∈ cycle, other ∈ (islandGraph.analyze []).unreachable) ∧
        ∃ other ∈ cycle, ReflTransGen islandGraph.Imports other "c.ts" := by
  have listed : (islandGraph.analyze []).unreachable = ["a.ts", "b.ts", "c.ts"] := by
    decide +kernel
  have coherent : islandGraph.Coherent := coherent_build ..
  obtain ⟨each, looped, -⟩ := coherent.unreachable_behind_loops
  exact ⟨listed, looped (by simp [listed]), (each "c.ts" (by simp [listed])).2.2⟩

end SourceAtlas.ImportGraph
