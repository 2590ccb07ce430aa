import Mathlib.Order.Bounds.Defs
import SourceAtlas.Graph.Report
import SourceAtlas.Proofs.Graph.Cycles

/-!
# What the depth of a graph measures

The search takes depths while files further up are still open, and leaves out
the imports that lead back to them. `Grounded` says that no depth is made up:
a depth above zero comes from an import of a closed file that is one less deep.
Since the final depths also fall along every import that closes no reported
cycle, the greatest of them is the length of a longest path in the graph without
the closing imports.
-/

namespace SourceAtlas

open Relation

namespace Graph.Traversal

variable {graph : ImportGraph} {state next : Traversal} {source target : String} {depth : Nat}

/-- A depth of `source` that its imports account for: zero, or one more than the depth of a closed
file that it imports. -/
def Supports (graph : ImportGraph) (marks : FileMap Depth) (source : String) : Nat → Prop
  | 0 => True
  | depth + 1 => ∃ target, graph.Imports source target ∧ marks[target]? = some (.known depth)

/-- Two depths that the imports account for have a greater one that they account for. -/
theorem Supports.max {marks : FileMap Depth} {other : Nat}
    (first : Supports graph marks source depth) (second : Supports graph marks source other) :
    Supports graph marks source (depth ⊔ other) := by
  rcases Nat.le_total depth other with order | order
  · rwa [Nat.max_eq_right order]
  · rwa [Nat.max_eq_left order]

/-- What is accounted for stays so after a move. -/
theorem Supports.move (supports : Supports graph state.marks source depth)
    (moved : Move graph state next) (well : WellMarked graph state) :
    Supports graph next.marks source depth := by
  cases depth with
  | zero => trivial
  | succ depth =>
    obtain ⟨target, edge, closed⟩ := supports
    exact ⟨target, edge, moved.done_stays well closed⟩

/-- Every depth found so far, of a closed file or of an open one, is accounted for. -/
structure Grounded (graph : ImportGraph) (state : Traversal) : Prop where
  closed : ∀ {file : String} {depth : Nat}, state.marks[file]? = some (.known depth) →
    Supports graph state.marks file depth
  opened : ∀ frame ∈ state.frames, Supports graph state.marks frame.file frame.deepest

/-- A move keeps all depths accounted for. -/
theorem Grounded.move (grounded : Grounded graph state) (moved : Move graph state next)
    (well : WellMarked graph state) : Grounded graph next := by
  have closedKept : ∀ {file : String} {depth : Nat}, state.marks[file]? = some (.known depth) →
      Supports graph next.marks file depth :=
    fun found => (grounded.closed found).move moved well
  have openKept : ∀ frame ∈ state.frames, Supports graph next.marks frame.file frame.deepest :=
    fun frame member => (grounded.opened frame member).move moved well
  cases moved with
  | pass => exact ⟨closedKept, openKept⟩
  | start =>
    refine ⟨fun {file depth} found => ?_, fun frame member => ?_⟩
    · rw [Std.ExtTreeMap.getElem?_insert] at found
      split at found
      · cases found
      · exact closedKept found
    · cases member with
      | head => trivial
      | tail _ member => cases member
  | @close _ file deepest rest marks =>
    have own := openKept _ (.head _)
    refine ⟨fun {other depth} found => ?_, fun frame member => ?_⟩
    · rw [Std.ExtTreeMap.getElem?_insert] at found
      split at found
      · next same =>
        cases found
        exact Std.LawfulEqCmp.eq_of_compare same ▸ own
      · exact closedKept found
    · cases rest with
      | nil => cases member
      | cons outer rest =>
        cases member with
        | head =>
          -- The file that closes is itself what supports the depth it hands up.
          have edge : graph.Imports outer.file file := (List.isChain_cons_cons.mp well.chain).1
          have handed : Supports graph (marks.insert file (.known deepest)) outer.file
              (deepest + 1) := ⟨file, edge, by simp⟩
          exact (openKept outer (.tail _ (.head _))).max handed
        | tail _ member => exact openKept frame (.tail _ (.tail _ member))
  | @loop _ file target pending deepest =>
    refine ⟨closedKept, fun frame member => ?_⟩
    cases member with
    | head => exact openKept ⟨file, target :: pending, deepest⟩ (.head _)
    | tail _ member => exact openKept frame (.tail _ member)
  | @count _ file target pending deepest rest marks loops lower closed =>
    refine ⟨closedKept, fun frame member => ?_⟩
    cases member with
    | head =>
      have edge : graph.Imports file target := well.pending _ (.head _) target (.head _)
      have counted : Supports graph marks file (lower + 1) := ⟨target, edge, closed⟩
      exact (openKept _ (.head _)).max counted
    | tail _ member => exact openKept frame (.tail _ member)
  | @descend _ file target pending deepest =>
    refine ⟨fun {file depth} found => ?_, fun frame member => ?_⟩
    · rw [Std.ExtTreeMap.getElem?_insert] at found
      split at found
      · cases found
      · exact closedKept found
    · cases member with
      | head => trivial
      | tail _ member =>
        cases member with
        | head => exact openKept ⟨file, target :: pending, deepest⟩ (.head _)
        | tail _ member => exact openKept frame (.tail _ member)

/-- At the start there is no depth to account for. -/
theorem Grounded.start (graph : ImportGraph) : Grounded graph { roots := graph.files } where
  closed found := by simp at found
  opened frame member := by cases member

end Graph.Traversal

namespace ImportGraph

open SourceAtlas.Graph SourceAtlas.Graph.Traversal

variable {graph : ImportGraph} {source target file : String}

/-! ## The depths of a finished search -/

/-- At the end of the search all depths are accounted for. -/
theorem grounded_traversal (graph : ImportGraph) : Grounded graph graph.traversal := by
  have both : WellMarked graph graph.traversal ∧ Grounded graph graph.traversal :=
    run_keeps (fun state => WellMarked graph state ∧ Grounded graph state)
      (fun moved held => ⟨held.1.move moved, held.2.move moved held.1⟩) _
      ⟨.start graph, .start graph⟩
  exact both.2

/-- A closed file has the depth that was noted. -/
theorem searchDepth_eq_of_known {depth : Nat}
    (closed : graph.traversal.marks[file]? = some (.known depth)) :
    graph.searchDepth file = depth := by
  rw [searchDepth, closed]

/-- A file that is not at the bottom imports one that is just below it. -/
theorem exists_imports_of_searchDepth {depth : Nat} (above : graph.searchDepth file = depth + 1) :
    ∃ target, graph.Imports file target ∧ graph.searchDepth target = depth := by
  rw [searchDepth] at above
  split at above
  · next own closed =>
    subst above
    obtain ⟨target, edge, below⟩ := (grounded_traversal graph).closed closed
    exact ⟨target, edge, searchDepth_eq_of_known below⟩
  · cases above

/-- The result of the finished search for the longest chain is in step with the joint search. -/
theorem maxDepth_inStep (graph : ImportGraph) :
    DepthSearch.InStep (graph.depthSearch graph.searchSteps) graph.traversal :=
  graph.depthSearch_inStep graph.searchSteps

/-- No file is deeper than the greatest depth. -/
theorem searchDepth_le_maxDepth (graph : ImportGraph) (file : String) :
    graph.searchDepth file ≤ graph.maxDepth := by
  rw [searchDepth]
  split
  · next depth closed => exact graph.maxDepth_inStep.bound closed
  · exact Nat.zero_le _

/-- Some file has the greatest depth, unless it is zero. -/
theorem exists_searchDepth_eq_maxDepth (graph : ImportGraph) :
    graph.maxDepth = 0 ∨
      ∃ file, graph.contains file = true ∧ graph.searchDepth file = graph.maxDepth := by
  refine graph.maxDepth_inStep.attained.imp_right ?_
  rintro ⟨file, closed⟩
  exact ⟨file, (wellMarked_traversal graph).marked file (mem_marks_of_getElem? closed),
    searchDepth_eq_of_known closed⟩

/-! ## Longest paths -/

/-- An import that closes no reported cycle. -/
def CutImports (graph : ImportGraph) (source target : String) : Prop :=
  graph.Imports source target ∧ ¬ ∃ cycle ∈ graph.cycles, cycle.ClosedBy source target

/-- A directed path of nodes, each once, along the given edges. -/
structure IsPath (graph : ImportGraph) (edge : String → String → Prop) (files : List String) :
    Prop where
  nodup : files.Nodup
  contains : ∀ file ∈ files, graph.contains file = true
  chain : files.IsChain edge

/-- A longest path has this number of edges. The path without files counts as one without edges,
so that a graph without nodes has a longest path too. -/
def LongestPath (graph : ImportGraph) (edge : String → String → Prop) (edges : Nat) : Prop :=
  IsGreatest { length | ∃ files, graph.IsPath edge files ∧ files.length - 1 = length } edges

/-- Along the imports that are left, depths fall. -/
theorem CutImports.falls (cut : graph.CutImports source target) :
    graph.searchDepth target < graph.searchDepth source :=
  cut.1.falls_or_closes_cycle.resolve_right cut.2

/-- The import that closes a reported cycle does not lead further down. -/
theorem searchDepth_le_of_closedBy {cycle : Cycle} (reported : cycle ∈ graph.cycles)
    (closes : cycle.ClosedBy source target) :
    graph.searchDepth source ≤ graph.searchDepth target := by
  have falling : cycle.files.IsChain fun outer inner =>
      graph.searchDepth inner < graph.searchDepth outer :=
    (loopOf_of_mem_cycles reported).chain.imp fun _ _ both => searchDepth_lt_of_below both.2
  have ordered := List.isChain_iff_pairwise.mp falling
  obtain ⟨starts, ends⟩ := closes
  have last := List.mem_of_getLast? ends
  cases files : cycle.files with
  | nil =>
    rw [files] at starts
    cases starts
  | cons first rest =>
    rw [files] at starts last ordered
    cases starts
    rcases List.mem_cons.mp last with same | later
    · rw [same]
    · exact Nat.le_of_lt ((List.pairwise_cons.mp ordered).1 source later)

/-- The imports that are left are those along which depths fall. -/
theorem cutImports_iff :
    graph.CutImports source target ↔
      graph.Imports source target ∧ graph.searchDepth target < graph.searchDepth source := by
  constructor
  · exact fun cut => ⟨cut.1, cut.falls⟩
  · rintro ⟨edge, falls⟩
    refine ⟨edge, ?_⟩
    rintro ⟨cycle, reported, closes⟩
    exact Nat.not_lt.mpr (searchDepth_le_of_closedBy reported closes) falls

/-- A chain along falling depths is no longer than the depth it starts from. -/
theorem length_le_searchDepth {rest : List String}
    (chain : (file :: rest).IsChain graph.CutImports) : rest.length ≤ graph.searchDepth file := by
  induction rest generalizing file with
  | nil => exact Nat.zero_le _
  | cons second rest inductionHypothesis =>
    obtain ⟨cut, onwards⟩ := List.isChain_cons_cons.mp chain
    exact Nat.lt_of_le_of_lt (inductionHypothesis onwards) cut.falls

/-- From every node a chain leads down that is as long as its depth. -/
theorem exists_chain_of_searchDepth {depth : Nat} (contained : graph.contains file = true)
    (deep : graph.searchDepth file = depth) :
    ∃ rest : List String, rest.length = depth ∧ (file :: rest).IsChain graph.CutImports ∧
      ∀ other ∈ file :: rest, graph.contains other = true := by
  induction depth generalizing file with
  | zero => exact ⟨[], rfl, List.isChain_singleton file, by simpa using contained⟩
  | succ depth inductionHypothesis =>
    obtain ⟨target, edge, below⟩ := exists_imports_of_searchDepth deep
    obtain ⟨rest, length, chain, nodes⟩ := inductionHypothesis edge.contains_target below
    have cut : graph.CutImports file target := cutImports_iff.mpr ⟨edge, by omega⟩
    exact ⟨target :: rest, by rw [List.length_cons, length],
      List.isChain_cons_cons.mpr ⟨cut, chain⟩, List.forall_mem_cons.mpr ⟨contained, nodes⟩⟩

/-- A chain along the imports that are left meets no file twice. -/
theorem nodup_of_isChain {files : List String} (chain : files.IsChain graph.CutImports) :
    files.Nodup := by
  have falling : files.IsChain fun outer inner =>
      graph.searchDepth inner < graph.searchDepth outer := chain.imp fun _ _ cut => cut.falls
  refine (List.isChain_iff_pairwise.mp falling).imp fun falls same => ?_
  exact Nat.lt_irrefl _ (same ▸ falls)

/-- The greatest depth is the length of a longest path that closes no reported cycle. -/
theorem longestPath_cutImports (graph : ImportGraph) :
    graph.LongestPath graph.CutImports graph.maxDepth := by
  constructor
  · rcases graph.exists_searchDepth_eq_maxDepth with none | ⟨file, contained, deepest⟩
    · rw [none]
      exact ⟨[], ⟨.nil, by simp, .nil⟩, rfl⟩
    · obtain ⟨rest, length, chain, nodes⟩ := exists_chain_of_searchDepth contained deepest
      exact ⟨file :: rest, ⟨nodup_of_isChain chain, nodes, chain⟩, length⟩
  · rintro length ⟨files, path, rfl⟩
    cases files with
    | nil => exact Nat.zero_le _
    | cons file rest =>
      exact Nat.le_trans (length_le_searchDepth path.chain) (graph.searchDepth_le_maxDepth file)

/-- A path of nodes has fewer edges than there are nodes. -/
theorem LongestPath.lt_size {edge : String → String → Prop} {edges : Nat}
    (longest : graph.LongestPath edge edges) (occupied : graph.files ≠ []) :
    edges < graph.size := by
  obtain ⟨⟨files, path, rfl⟩, -⟩ := longest
  have shorter : files.length ≤ graph.size := length_le_size path.nodup path.contains
  have nodes : graph.files.length = graph.size := Std.ExtTreeMap.length_keys
  have positive : 0 < graph.files.length := List.length_pos_iff.mpr occupied
  omega

/-- Without a way from a file back to itself no cycle is reported, so every import is left. -/
theorem cutImports_of_acyclic (acyclic : ∀ file, ¬ TransGen graph.Imports file file) :
    graph.CutImports = graph.Imports := by
  funext source target
  refine propext ⟨And.left, fun edge => ⟨edge, ?_⟩⟩
  rintro ⟨cycle, reported, starts, -⟩
  have isCycle := isImportCycle_of_loopOf (loopOf_of_mem_cycles reported)
  exact acyclic target (isCycle.reaches_itself (List.mem_of_mem_head? starts))

/-- The depth among the figures of a graph is the number of edges of a longest path once the import
that closes each reported cycle is taken out. So it is that of a longest path of imports when no
file reaches itself, and less than the number of nodes when there are any. The search that finds it
visits the graph as the search for cycles does, step by step. -/
theorem maxDepth_longestPath (graph : ImportGraph) (entries : List String) :
    graph.LongestPath graph.CutImports (graph.statistics entries).maxDepth ∧
    ((∀ file, ¬ TransGen graph.Imports file file) →
      graph.LongestPath graph.Imports (graph.statistics entries).maxDepth) ∧
    (graph.files ≠ [] → (graph.statistics entries).maxDepth < graph.size) ∧
    (∀ steps, SameVisit (graph.cycleSearch steps) (graph.depthSearch steps)) := by
  have longest : graph.LongestPath graph.CutImports (graph.statistics entries).maxDepth :=
    graph.longestPath_cutImports
  refine ⟨longest, fun acyclic => ?_, longest.lt_size, graph.searches_alike⟩
  rwa [cutImports_of_acyclic acyclic] at longest

/-- A loop of two files and one of three that shares them, with two ways down to a file below. -/
def nestedLoops : ImportGraph :=
  ofEdges [("a", "b"), ("b", "c"), ("c", "a"), ("b", "a"), ("c", "d"), ("a", "d")]

/-- The longest path without the two imports that lead back to the first file has three edges. -/
theorem nestedLoops_longestPath :
    nestedLoops.cycles = [⟨["a", "b"]⟩, ⟨["a", "b", "c"]⟩] ∧
      nestedLoops.LongestPath nestedLoops.CutImports 3 ∧ 3 < nestedLoops.size := by
  have deep : (nestedLoops.statistics []).maxDepth = 3 := by decide +kernel
  obtain ⟨longest, -, bounded, -⟩ := maxDepth_longestPath nestedLoops []
  rw [deep] at longest bounded
  exact ⟨by decide +kernel, longest, bounded (by decide +kernel)⟩

end ImportGraph

end SourceAtlas
