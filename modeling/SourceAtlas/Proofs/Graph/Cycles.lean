import SourceAtlas.Proofs.Graph.Lockstep

/-!
# What the cycle report says of a graph

Every reported cycle is one, no two are the same up to rotation, and taking the
closing import of each of them out of the graph leaves no way from a file back
to itself. What makes the last part work is `searchDepth`: it falls along each
edge that closes no reported cycle.
-/

namespace SourceAtlas

open Relation

namespace Graph.Cycle

/-- The cycle ends with the import of `target` by `source`. -/
def ClosedBy (cycle : Cycle) (source target : String) : Prop :=
  cycle.files.head? = some target ∧ cycle.files.getLast? = some source

end Graph.Cycle

namespace ImportGraph

open SourceAtlas.Graph SourceAtlas.Graph.Traversal

variable {graph : ImportGraph} {source target file : String}

/-- A list of nodes, each once, in which each file imports the next and the last imports the
first. -/
structure IsImportCycle (graph : ImportGraph) (files : List String) : Prop where
  nodup : files.Nodup
  contains : ∀ file ∈ files, graph.contains file = true
  chain : files.IsChain graph.Imports
  closing : ∃ first last, files.head? = some first ∧ files.getLast? = some last ∧
    graph.Imports last first

/-- Every file on a chain reaches its last member and is reached from its first. -/
theorem reaches_along_chain {files : List String} {first last : String}
    (chain : files.IsChain graph.Imports) (starts : files.head? = some first)
    (ends : files.getLast? = some last) (member : file ∈ files) :
    ReflTransGen graph.Imports first file ∧ ReflTransGen graph.Imports file last := by
  obtain ⟨before, behind, rfl⟩ := List.append_of_mem member
  constructor
  · have upTo : (before ++ [file]).IsChain graph.Imports :=
      List.IsChain.prefix chain ⟨behind, by simp⟩
    have reached := List.relationReflTransGen_of_exists_isChain _ upTo (by simp)
    have sameHead : (before ++ [file]).head (by simp) = first := by
      cases before with
      | nil => simpa using starts
      | cons head tail => simpa using starts
    rwa [sameHead, List.getLast_concat] at reached
  · have onwards : (file :: behind).IsChain graph.Imports := chain.suffix ⟨before, rfl⟩
    have reached := List.relationReflTransGen_of_exists_isChain _ onwards (by simp)
    have sameLast : (file :: behind).getLast (by simp) = last := by
      rw [List.getLast?_append_of_ne_nil _ (by simp), List.getLast?_eq_some_getLast (by simp)] at ends
      exact Option.some.inj ends
    rwa [sameLast] at reached

/-- A file on an import cycle reaches itself. -/
theorem IsImportCycle.reaches_itself {files : List String} (cycle : graph.IsImportCycle files)
    (member : file ∈ files) : TransGen graph.Imports file file := by
  obtain ⟨first, last, starts, ends, edge⟩ := cycle.closing
  obtain ⟨fromFirst, toLast⟩ := reaches_along_chain cycle.chain starts ends member
  exact TransGen.trans_left (TransGen.tail' toLast edge) fromFirst

/-! ## Loops of the finished search -/

/-- Every loop of the search leads along imports back to its start. -/
theorem loopOf_traversal {loop : List String} (member : loop ∈ graph.traversal.loops) :
    LoopOf graph graph.traversal loop :=
  (accounted_traversal graph).loops loop member

/-- A loop, turned to its least file, is a cycle of imports. -/
theorem isImportCycle_of_loopOf {loop : List String}
    (loopOf : LoopOf graph graph.traversal loop) : graph.IsImportCycle loop where
  nodup := loopOf.nodup
  contains file member := by
    obtain ⟨first, last, starts, ends, edge⟩ := loopOf.closing
    have chain : loop.IsChain graph.Imports := loopOf.chain.imp fun _ _ both => both.1
    rcases (reaches_along_chain chain starts ends member).2.cases_head with same | ⟨_, onwards, _⟩
    · exact same ▸ edge.contains_source
    · exact onwards.contains_source
  chain := loopOf.chain.imp fun _ _ both => both.1
  closing := loopOf.closing

/-- The report of the finished search for cycles is in step with the joint search. -/
theorem cycles_inStep (graph : ImportGraph) :
    CycleSearch.InStep (graph.cycleSearch graph.searchSteps) graph.traversal :=
  graph.cycleSearch_inStep graph.searchSteps

/-- A loop of the search, or a rotation of it, is reported. -/
theorem exists_cycle_of_loop {loop : List String} (member : loop ∈ graph.traversal.loops) :
    ∃ cycle ∈ graph.cycles, loop.IsRotated cycle.files := by
  have inStep := graph.cycles_inStep
  obtain ⟨cycle, reported, same⟩ := (inStep.seen _).mp (inStep.covered loop member)
  exact ⟨cycle, reported, (canonicalRotation_eq_iff (loopOf_traversal member).nodup).mp same.symm⟩

/-- Every reported cycle is a loop of the search. -/
theorem loopOf_of_mem_cycles {cycle : Cycle} (member : cycle ∈ graph.cycles) :
    LoopOf graph graph.traversal cycle.files :=
  loopOf_traversal (graph.cycles_inStep.reported cycle member)

/-- An import leads to a file of smaller depth, or it closes a reported cycle. -/
theorem Imports.falls_or_closes_cycle (edge : graph.Imports source target) :
    graph.searchDepth target < graph.searchDepth source ∨
      ∃ cycle ∈ graph.cycles, cycle.ClosedBy source target := by
  rcases edge.falls_or_closes with falls | ⟨loop, member, starts, ends⟩
  · exact .inl falls
  · obtain ⟨cycle, reported, isRotated⟩ := exists_cycle_of_loop member
    rcases closing_of_isRotated isRotated starts ends with closes | adjacent
    · exact .inr ⟨cycle, reported, closes⟩
    · -- Inside the reported rotation the import counts, so the depth falls along it.
      have pair := List.IsChain.infix (loopOf_of_mem_cycles reported).chain adjacent
      exact .inl (searchDepth_lt_of_below (List.isChain_pair.mp pair).2)

/-- Where depths fall along edges, they fall along every walk. -/
theorem searchDepth_lt_of_transGen (graph : ImportGraph) {rest : String → String → Prop}
    (falls : ∀ {source target}, rest source target →
      graph.searchDepth target < graph.searchDepth source)
    (walk : TransGen rest source target) :
    graph.searchDepth target < graph.searchDepth source := by
  induction walk with
  | single step => exact falls step
  | tail _ step inductionHypothesis => exact Nat.lt_trans (falls step) inductionHypothesis

/-- Every reported cycle is an import cycle of nodes, no two are rotations of one another, and
without their closing imports no file reaches itself; so none is reported exactly when no file
reaches itself. -/
theorem cycles_break_all (graph : ImportGraph) :
    (∀ cycle ∈ graph.cycles, graph.IsImportCycle cycle.files) ∧
    (graph.cycles.Pairwise fun first second => ¬ first.files.IsRotated second.files) ∧
    (∀ file, ¬ TransGen (fun source target => graph.Imports source target ∧
      ¬ ∃ cycle ∈ graph.cycles, cycle.ClosedBy source target) file file) ∧
    (graph.cycles = [] ↔ ∀ file, ¬ TransGen graph.Imports file file) := by
  have sound : ∀ cycle ∈ graph.cycles, graph.IsImportCycle cycle.files :=
    fun cycle member => isImportCycle_of_loopOf (loopOf_of_mem_cycles member)
  have broken : ∀ file, ¬ TransGen (fun source target => graph.Imports source target ∧
      ¬ ∃ cycle ∈ graph.cycles, cycle.ClosedBy source target) file file := by
    intro file walk
    have falls := searchDepth_lt_of_transGen graph
      (fun step => step.1.falls_or_closes_cycle.resolve_right step.2) walk
    exact Nat.lt_irrefl _ falls
  refine ⟨sound, ?_, broken, ?_, ?_⟩
  · refine graph.cycles_inStep.distinct.imp_of_mem ?_
    intro first second reported _ different isRotated
    exact different ((canonicalRotation_eq_iff (sound first reported).nodup).mpr isRotated)
  · intro noCycle file walk
    refine broken file (TransGen.mono (fun source target edge => ⟨edge, ?_⟩) file file walk)
    rintro ⟨cycle, member, -⟩
    rw [noCycle] at member
    cases member
  · intro noWalk
    refine List.eq_nil_iff_forall_not_mem.mpr fun cycle member => ?_
    obtain ⟨first, last, starts, ends, edge⟩ := (sound cycle member).closing
    exact noWalk first ((sound cycle member).reaches_itself (List.mem_of_mem_head? starts))

end ImportGraph

end SourceAtlas
