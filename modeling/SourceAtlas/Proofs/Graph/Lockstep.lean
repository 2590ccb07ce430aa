import Mathlib.Data.Option.Basic
import SourceAtlas.Graph.Cycle
import SourceAtlas.Proofs.Graph.Search

/-!
# The two searches in step

The search for cycles and the search for the longest chain keep marks, stacks
and results of their own. Each is in step with the joint search (`InStep`): one
step of the one is matched by one step of the other, and both end together. So
the two machines open, inspect and close the same files at the same steps
(`searches_alike`), come to an end in the steps they are given
(`searches_finished`), and report what the joint search knows.
-/

namespace SourceAtlas.Graph

variable {graph : ImportGraph} {state : Traversal}

open Traversal (WellMarked Move)

/-- Machines that step alike are alike after any number of steps. The invariant is one that the
second machine keeps. -/
theorem advance_rel {σ τ : Type} {alike : σ → τ → Prop} {invariant : τ → Prop}
    {stepOne : σ → Option σ} {stepOther : τ → Option τ}
    (matched : ∀ {one other}, alike one other → invariant other →
      Option.Rel alike (stepOne one) (stepOther other))
    (kept : ∀ {other next}, stepOther other = some next → invariant other → invariant next)
    {one : σ} {other : τ} (start : alike one other) (holds : invariant other) (steps : Nat) :
    alike (advance stepOne steps one) (advance stepOther steps other) := by
  induction steps generalizing one other with
  | zero => exact start
  | succ steps inductionHypothesis =>
    have stepped := matched start holds
    rw [advance, advance]
    cases foundOne : stepOne one <;> cases foundOther : stepOther other <;>
      rw [foundOne, foundOther] at stepped <;> cases stepped
    case none.none => exact start
    case some.some alikeNext => exact inductionHypothesis alikeNext (kept foundOther holds)

/-- The mark that the search for cycles gives a file of this depth. -/
def Depth.mark : Depth → Mark
  | .inProgress => .visiting
  | .known _ => .done

namespace CycleSearch

variable {search : CycleSearch}

/-- The search for cycles is where the joint search is: its stack, its path and its marks say the
same, and its report has one loop of each class of rotations that was closed. -/
structure InStep (search : CycleSearch) (state : Traversal) : Prop where
  roots : search.roots = state.roots
  stack : search.stack = state.frames.map fun frame => ⟨frame.file, frame.pending⟩
  path : search.path = state.path
  marks : ∀ file : String, search.marks[file]? = (state.marks[file]?).map Depth.mark
  reported : ∀ cycle ∈ search.cycles, cycle.files ∈ state.loops
  distinct : search.cycles.Pairwise fun first second =>
    canonicalRotation first.files ≠ canonicalRotation second.files
  seen : ∀ key, key ∈ search.seen ↔ ∃ cycle ∈ search.cycles, canonicalRotation cycle.files = key
  covered : ∀ loop ∈ state.loops, canonicalRotation loop ∈ search.seen

/-- Machines in step have met the same files. -/
theorem InStep.contains_marks (inStep : InStep search state) (file : String) :
    search.marks.contains file = state.marks.contains file := by
  rw [Std.ExtTreeMap.contains_eq_isSome_getElem?, Std.ExtTreeMap.contains_eq_isSome_getElem?,
    inStep.marks, Option.isSome_map]

/-- Opening a file keeps the searches in step, the path having grown by that file. -/
theorem InStep.openFile (inStep : InStep search state) (graph : ImportGraph) (file : String) :
    InStep (openFile graph search file) (state.openFile graph file) where
  roots := inStep.roots
  stack := by simp [CycleSearch.openFile, Traversal.openFile, inStep.stack]
  path := by simp [CycleSearch.openFile, Traversal.openFile, Traversal.path, inStep.path]
  marks other := by
    simp only [CycleSearch.openFile, Traversal.openFile, Std.ExtTreeMap.getElem?_insert]
    split
    · rfl
    · exact inStep.marks other
  reported := inStep.reported
  distinct := inStep.distinct
  seen := inStep.seen
  covered := inStep.covered

/-- Closing the innermost file keeps the searches in step, the path having lost that file. -/
theorem InStep.closeFile {frame : DepthSearch.Frame} {rest : List DepthSearch.Frame}
    (inStep : InStep search state) (innermost : state.frames = frame :: rest) :
    InStep (search.closeFile frame.file (rest.map fun frame => ⟨frame.file, frame.pending⟩))
      { state with
        frames := DepthSearch.deepen frame.deepest rest
        marks := state.marks.insert frame.file (.known frame.deepest) } where
  roots := inStep.roots
  stack := by
    cases rest with
    | nil => rfl
    | cons outer rest => rfl
  path := by
    have path : search.path = (rest.map DepthSearch.Frame.file).reverse ++ [frame.file] := by
      rw [inStep.path, Traversal.path, innermost]
      simp
    simp [CycleSearch.closeFile, Traversal.path, path, Traversal.map_file_deepen]
  marks other := by
    simp only [CycleSearch.closeFile, Std.ExtTreeMap.getElem?_insert]
    split
    · rfl
    · exact inStep.marks other
  reported := inStep.reported
  distinct := inStep.distinct
  seen := inStep.seen
  covered := inStep.covered

/-- A loop that is closed is reported, or a rotation of it has been. -/
theorem InStep.closeLoop {file : String} (inStep : InStep search state)
    (isOpen : file ∈ state.openFiles) :
    InStep (search.closeLoop file)
      { state with loops := state.loopFrom file :: state.loops } := by
  have onPath : search.path.contains file = true := by
    rw [inStep.path, List.contains_iff_mem]
    exact List.mem_reverse.mpr isOpen
  have loop : search.path.dropWhile (· ≠ file) = state.loopFrom file := by
    rw [inStep.path, Traversal.loopFrom]
  rw [CycleSearch.closeLoop, if_pos onPath]
  simp only [loop, List.contains_iff_mem]
  split
  · next known =>
    exact { inStep with
      reported := fun cycle member => .tail _ (inStep.reported cycle member)
      covered := List.forall_mem_cons.mpr ⟨known, inStep.covered⟩ }
  · next fresh =>
    refine { inStep with reported := ?_, distinct := ?_, seen := ?_, covered := ?_ }
    · intro cycle member
      rcases List.mem_append.mp member with earlier | last
      · exact .tail _ (inStep.reported cycle earlier)
      · rw [List.mem_singleton.mp last]
        exact .head _
    · refine List.pairwise_append.mpr ⟨inStep.distinct, List.pairwise_singleton .., ?_⟩
      intro cycle member last isLast same
      rw [List.mem_singleton.mp isLast] at same
      exact fresh ((inStep.seen _).mpr ⟨cycle, member, same⟩)
    · intro key
      simp only [List.mem_cons, inStep.seen, List.mem_append, List.not_mem_nil, or_false]
      constructor
      · rintro (rfl | ⟨cycle, member, same⟩)
        · exact ⟨_, .inr rfl, rfl⟩
        · exact ⟨cycle, .inl member, same⟩
      · rintro ⟨cycle, member | rfl, same⟩
        · exact .inr ⟨cycle, member, same⟩
        · exact .inl same.symm
    · refine List.forall_mem_cons.mpr ⟨.head _, fun loop closed => ?_⟩
      exact .tail _ (inStep.covered loop closed)

/-- A step of the one search is matched by a step of the other, and they end together. -/
theorem InStep.step (inStep : InStep search state) (well : WellMarked graph state) :
    Option.Rel InStep (step graph search) (state.step graph) := by
  obtain ⟨roots, frames, marks, loops⟩ := state
  have sameRoots : search.roots = roots := inStep.roots
  have sameStack := inStep.stack
  have sameMarks : ∀ file : String, search.marks[file]? = (marks[file]?).map Depth.mark :=
    inStep.marks
  match frames, roots with
  | [], [] =>
    simp only [List.map_nil] at sameStack
    simp only [CycleSearch.step, Traversal.step, sameStack, sameRoots]
    exact .none
  | [], root :: roots =>
    have passed : InStep { search with roots, stack := [] } ⟨roots, [], marks, loops⟩ :=
      { inStep with roots := rfl, stack := rfl }
    have restarted : InStep { search with roots, stack := [], path := [] }
        ⟨roots, [], marks, loops⟩ := { passed with path := rfl }
    have sameKnown : search.marks.contains root = marks.contains root :=
      inStep.contains_marks root
    simp only [List.map_nil] at sameStack
    simp only [CycleSearch.step, Traversal.step, sameStack, sameRoots, sameKnown]
    split
    · exact .some passed
    · exact .some (restarted.openFile graph root)
  | ⟨file, [], deepest⟩ :: rest, roots =>
    simp only [List.map_cons] at sameStack
    simp only [CycleSearch.step, Traversal.step, sameStack]
    exact .some (inStep.closeFile rfl)
  | ⟨file, target :: pending, deepest⟩ :: rest, roots =>
    simp only [List.map_cons] at sameStack
    have inspected (grown : Nat) : InStep
        { search with stack :=
            ⟨file, pending⟩ :: rest.map fun frame => ⟨frame.file, frame.pending⟩ }
        ⟨roots, ⟨file, pending, grown⟩ :: rest, marks, loops⟩ :=
      { inStep with stack := rfl }
    simp only [CycleSearch.step, Traversal.step, sameStack, sameMarks]
    cases found : marks[target]? with
    | none => exact .some ((inspected deepest).openFile graph target)
    | some depth =>
      cases depth with
      | inProgress =>
        have isOpen := (well.visiting_iff target).mp found
        exact .some ((inspected deepest).closeLoop isOpen)
      | known lower => exact .some (inspected _)

/-- The two machines start in step. -/
theorem InStep.start (graph : ImportGraph) :
    InStep { roots := graph.files } { roots := graph.files } where
  roots := rfl
  stack := rfl
  path := rfl
  marks file := by simp
  reported cycle member := by cases member
  distinct := .nil
  seen key := by simp
  covered loop closed := by cases closed

end CycleSearch

namespace DepthSearch

variable {search : DepthSearch}

/-- The search for the longest chain is where the joint search is, and its result so far is the
greatest depth that is known, or zero. -/
structure InStep (search : DepthSearch) (state : Traversal) : Prop where
  roots : search.roots = state.roots
  stack : search.stack = state.frames
  memo : search.memo = state.marks
  bound : ∀ {file : String} {depth : Nat}, state.marks[file]? = some (.known depth) →
    depth ≤ search.best
  attained : search.best = 0 ∨ ∃ file : String, state.marks[file]? = some (.known search.best)

/-- A mark for a file whose depth is not known leaves the file that has the greatest. -/
theorem InStep.attained_insert {file : String} (inStep : InStep search state)
    (unknown : ∀ depth, state.marks[file]? ≠ some (.known depth)) (mark : Depth) :
    search.best = 0 ∨
      ∃ other : String, (state.marks.insert file mark)[other]? = some (.known search.best) := by
  refine inStep.attained.imp_right ?_
  rintro ⟨other, found⟩
  have different : file ≠ other := by
    rintro rfl
    exact unknown _ found
  exact ⟨other, by simpa [Std.ExtTreeMap.getElem?_insert, different] using found⟩

/-- A file that is opened has no known depth yet, so the greatest stays. -/
theorem InStep.openFile {file : String} (inStep : InStep search state) (graph : ImportGraph)
    (fresh : state.marks[file]? = none) :
    InStep (openFile graph search file) (state.openFile graph file) where
  roots := inStep.roots
  stack := by simp [DepthSearch.openFile, Traversal.openFile, inStep.stack]
  memo := by simp [DepthSearch.openFile, Traversal.openFile, inStep.memo]
  bound found := by
    simp only [Traversal.openFile, Std.ExtTreeMap.getElem?_insert] at found
    split at found
    · cases found
    · exact inStep.bound found
  attained := inStep.attained_insert (by simp [fresh]) .inProgress

/-- The depth of a file that closes is known from then on, and the result so far grows to it. -/
theorem InStep.closeFile {frame : Frame} {rest : List Frame} (inStep : InStep search state)
    (visiting : state.marks[frame.file]? = some .inProgress) :
    InStep (search.closeFile frame rest)
      { state with
        frames := deepen frame.deepest rest
        marks := state.marks.insert frame.file (.known frame.deepest) } where
  roots := inStep.roots
  stack := rfl
  memo := by simp [DepthSearch.closeFile, inStep.memo]
  bound found := by
    simp only [DepthSearch.closeFile]
    simp only [Std.ExtTreeMap.getElem?_insert] at found
    split at found
    · cases found
      exact Nat.le_max_right ..
    · exact Nat.le_trans (inStep.bound found) (Nat.le_max_left ..)
  attained := by
    simp only [DepthSearch.closeFile]
    rcases Nat.le_total search.best frame.deepest with greater | smaller
    · rw [Nat.max_eq_right greater]
      exact .inr ⟨frame.file, by simp⟩
    · rw [Nat.max_eq_left smaller]
      exact inStep.attained_insert (by simp [visiting]) _

/-- A step of the one search is matched by a step of the other, and they end together. -/
theorem InStep.step (inStep : InStep search state) (well : WellMarked graph state) :
    Option.Rel InStep (step graph search) (state.step graph) := by
  obtain ⟨roots, frames, marks, loops⟩ := state
  obtain ⟨roots, stack, memo, best⟩ := search
  obtain ⟨rfl, rfl, rfl, bound, attained⟩ := inStep
  match stack, roots with
  | [], [] => exact .none
  | [], root :: roots =>
    have passed : InStep ⟨roots, [], memo, best⟩ ⟨roots, [], memo, loops⟩ :=
      ⟨rfl, rfl, rfl, bound, attained⟩
    simp only [DepthSearch.step, Traversal.step]
    split
    · exact .some passed
    · next fresh =>
      have unmet : memo[root]? = none := Std.ExtTreeMap.getElem?_eq_none fun known =>
        fresh (Std.ExtTreeMap.contains_iff_mem.mpr known)
      exact .some (passed.openFile graph unmet)
  | frame@⟨file, [], deepest⟩ :: rest, roots =>
    have visiting : memo[file]? = some .inProgress := (well.visiting_iff file).mpr (.head _)
    have whole : InStep ⟨roots, frame :: rest, memo, best⟩ ⟨roots, frame :: rest, memo, loops⟩ :=
      ⟨rfl, rfl, rfl, bound, attained⟩
    exact .some (whole.closeFile visiting)
  | ⟨file, target :: pending, deepest⟩ :: rest, roots =>
    have inspected (stack : List Frame) (loops : List (List String)) :
        InStep ⟨roots, stack, memo, best⟩ ⟨roots, stack, memo, loops⟩ :=
      ⟨rfl, rfl, rfl, bound, attained⟩
    simp only [DepthSearch.step, Traversal.step]
    cases found : memo[target]? with
    | none => exact .some ((inspected _ loops).openFile graph found)
    | some depth =>
      cases depth with
      | inProgress => exact .some (inspected _ _)
      | known lower => exact .some (inspected _ loops)

/-- The two machines start in step. -/
theorem InStep.start (graph : ImportGraph) :
    InStep { roots := graph.files } { roots := graph.files } where
  roots := rfl
  stack := rfl
  memo := rfl
  bound found := by simp at found
  attained := .inl rfl

end DepthSearch

end SourceAtlas.Graph

namespace SourceAtlas.ImportGraph

open SourceAtlas.Graph SourceAtlas.Graph.Traversal

variable {graph : ImportGraph}

/-- After any number of steps the search for cycles is in step. -/
theorem cycleSearch_inStep (graph : ImportGraph) (steps : Nat) :
    CycleSearch.InStep (graph.cycleSearch steps) (graph.searchAt steps) :=
  advance_rel (fun inStep well => inStep.step well)
    (fun stepped well => well.move (Move.of_step stepped)) (.start graph)
    (WellMarked.start graph) steps

/-- After any number of steps the search for depths is in step. -/
theorem depthSearch_inStep (graph : ImportGraph) (steps : Nat) :
    DepthSearch.InStep (graph.depthSearch steps) (graph.searchAt steps) :=
  advance_rel (fun inStep well => inStep.step well)
    (fun stepped well => well.move (Move.of_step stepped)) (.start graph)
    (WellMarked.start graph) steps

/-- What the two searches have done of the graph is the same. -/
structure SameVisit (cycles : CycleSearch) (depths : DepthSearch) : Prop where
  roots : cycles.roots = depths.roots
  stack : cycles.stack = depths.stack.map fun frame => ⟨frame.file, frame.pending⟩
  marks : ∀ file : String, cycles.marks[file]? = (depths.memo[file]?).map Depth.mark

/-- After any number of steps the two searches have the same files open, with the same imports
still to inspect, and the same files closed. -/
theorem searches_alike (graph : ImportGraph) (steps : Nat) :
    SameVisit (graph.cycleSearch steps) (graph.depthSearch steps) := by
  have cycles := graph.cycleSearch_inStep steps
  have depths := graph.depthSearch_inStep steps
  refine ⟨?_, ?_, fun file => ?_⟩
  · rw [cycles.roots, depths.roots]
  · rw [cycles.stack, depths.stack]
  · rw [cycles.marks, depths.memo]

/-- Both searches come to their end within the steps they are given. -/
theorem searches_finished (graph : ImportGraph) :
    CycleSearch.step graph (graph.cycleSearch graph.searchSteps) = none ∧
      DepthSearch.step graph (graph.depthSearch graph.searchSteps) = none := by
  have ended : (graph.searchAt graph.searchSteps).step graph = none :=
    step_eq_none_iff.mpr graph.traversal_finished
  have well := graph.wellMarked_searchAt graph.searchSteps
  have cycles := (graph.cycleSearch_inStep graph.searchSteps).step well
  have depths := (graph.depthSearch_inStep graph.searchSteps).step well
  rw [ended] at cycles depths
  constructor
  · cases found : CycleSearch.step graph (graph.cycleSearch graph.searchSteps) with
    | none => rfl
    | some next => rw [found] at cycles; cases cycles
  · cases found : DepthSearch.step graph (graph.depthSearch graph.searchSteps) with
    | none => rfl
    | some next => rw [found] at depths; cases depths

end SourceAtlas.ImportGraph
