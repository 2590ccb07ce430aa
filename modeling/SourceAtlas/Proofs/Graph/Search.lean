import Mathlib.Data.List.Chain
import Mathlib.Data.List.Nodup
import Mathlib.Data.List.Perm.Subperm
import Mathlib.Logic.Relation
import SourceAtlas.Number.Total
import SourceAtlas.Proofs.Graph.Rotation
import SourceAtlas.Proofs.Graph.Traversal

/-!
# The search behind the cycle report

`Move` lists what one step of the traversal can do, and every invariant below is
a case analysis on it. `Below` is the relation that carries the cycle theorems:
an import counts towards the depth of its importer exactly when it does not
close a loop, so along `Below` the final depths fall strictly. The traversal of
a graph has enough steps to close every file (`traversal_finished`).
-/

namespace SourceAtlas

namespace ImportGraph

variable {graph : ImportGraph} {source target : String}

/-- `target` is among the dependencies that the node of `source` stores, and is itself a node. -/
def Imports (graph : ImportGraph) (source target : String) : Prop :=
  ∃ node, graph.get? source = some node ∧ target ∈ node.dependencies ∧
    graph.contains target = true

/-- The neighbors of a file are the files it imports. -/
theorem mem_neighbors_iff : target ∈ graph.neighbors source ↔ graph.Imports source target := by
  rw [Imports, neighbors]
  cases graph.get? source with
  | none => simp
  | some node => simp [Std.ExtTreeSet.mem_toList]

instance : Decidable (graph.Imports source target) := decidable_of_iff _ mem_neighbors_iff

/-- A graph contains the files that it has nodes for. -/
theorem contains_iff_mem {file : String} : graph.contains file = true ↔ file ∈ graph.nodes :=
  Std.ExtTreeMap.contains_iff_mem

/-- The listed files are those that have a node. -/
theorem mem_files_iff {file : String} : file ∈ graph.files ↔ graph.contains file = true := by
  rw [contains_iff_mem]
  exact Std.ExtTreeMap.mem_keys

/-- Nodes, each once, are no more than all nodes. -/
theorem length_le_size {files : List String} (nodup : files.Nodup)
    (contained : ∀ file ∈ files, graph.contains file = true) : files.length ≤ graph.size := by
  have listed : files ⊆ graph.files := fun file member => mem_files_iff.mpr (contained file member)
  calc files.length
      ≤ graph.files.length := (List.Nodup.subperm nodup listed).length_le
    _ = graph.size := Std.ExtTreeMap.length_keys

/-- An imported file has a node. -/
theorem Imports.contains_target (edge : graph.Imports source target) :
    graph.contains target = true := by
  obtain ⟨-, -, -, contained⟩ := edge
  exact contained

/-- An importing file has a node. -/
theorem Imports.contains_source (edge : graph.Imports source target) :
    graph.contains source = true := by
  obtain ⟨node, found, -, -⟩ := edge
  rw [contains_iff_mem]
  exact Std.ExtTreeMap.mem_iff_isSome_getElem?.mpr (Option.isSome_of_eq_some found)

end ImportGraph

namespace Graph.Traversal

open DepthSearch (Frame deepen)

variable {graph : ImportGraph} {state next : Traversal} {source target file : String}

/-- The open files, innermost first. -/
def openFiles (state : Traversal) : List String := state.frames.map Frame.file

/-- What one step can do, with the state before and after it. -/
inductive Move (graph : ImportGraph) : Traversal → Traversal → Prop where
  /-- A file to start from has been met before. -/
  | pass {root roots marks loops} (known : root ∈ marks) :
      Move graph ⟨root :: roots, [], marks, loops⟩ ⟨roots, [], marks, loops⟩
  /-- A file to start from is opened. -/
  | start {root roots marks loops} (fresh : root ∉ marks) :
      Move graph ⟨root :: roots, [], marks, loops⟩
        ⟨roots, [⟨root, graph.neighbors root, 0⟩], marks.insert root .inProgress, loops⟩
  /-- The innermost file is closed. -/
  | close {roots file deepest rest marks loops} :
      Move graph ⟨roots, ⟨file, [], deepest⟩ :: rest, marks, loops⟩
        ⟨roots, deepen deepest rest, marks.insert file (.known deepest), loops⟩
  /-- An import of an open file closes a loop. -/
  | loop {roots file target pending deepest rest marks loops}
      (visiting : marks[target]? = some .inProgress) :
      Move graph ⟨roots, ⟨file, target :: pending, deepest⟩ :: rest, marks, loops⟩
        ⟨roots, ⟨file, pending, deepest⟩ :: rest, marks,
          loopFrom ⟨roots, ⟨file, target :: pending, deepest⟩ :: rest, marks, loops⟩ target ::
            loops⟩
  /-- An import of a closed file counts for the depth. -/
  | count {roots file target pending deepest rest marks loops lower}
      (closed : marks[target]? = some (.known lower)) :
      Move graph ⟨roots, ⟨file, target :: pending, deepest⟩ :: rest, marks, loops⟩
        ⟨roots, ⟨file, pending, max deepest (lower + 1)⟩ :: rest, marks, loops⟩
  /-- An import that is met for the first time is opened. -/
  | descend {roots file target pending deepest rest marks loops} (fresh : target ∉ marks) :
      Move graph ⟨roots, ⟨file, target :: pending, deepest⟩ :: rest, marks, loops⟩
        ⟨roots, ⟨target, graph.neighbors target, 0⟩ :: ⟨file, pending, deepest⟩ :: rest,
          marks.insert target .inProgress, loops⟩

/-- Every step is one of the moves. -/
theorem Move.of_step (stepped : step graph state = some next) : Move graph state next := by
  obtain ⟨roots, frames, marks, loops⟩ := state
  match frames, roots with
  | [], [] => cases stepped
  | [], root :: roots =>
    simp only [step] at stepped
    split at stepped
    · next known =>
      cases stepped
      exact .pass (Std.ExtTreeMap.contains_iff_mem.mp known)
    · next fresh =>
      cases stepped
      exact .start fun known => fresh (Std.ExtTreeMap.contains_iff_mem.mpr known)
  | ⟨file, [], deepest⟩ :: rest, roots =>
    cases stepped
    exact .close
  | ⟨file, target :: pending, deepest⟩ :: rest, roots =>
    simp only [step] at stepped
    split at stepped
    · next visiting =>
      cases stepped
      exact .loop visiting
    · next closed =>
      cases stepped
      exact .count closed
    · next fresh =>
      cases stepped
      refine .descend fun known => ?_
      simp [Std.ExtTreeMap.mem_iff_isSome_getElem?, fresh] at known

/-- The search stops only when nothing is open and nothing is left to start from. -/
theorem step_eq_none_iff : step graph state = none ↔ state.frames = [] ∧ state.roots = [] := by
  obtain ⟨roots, frames, marks, loops⟩ := state
  match frames, roots with
  | [], [] => simp [step]
  | [], root :: roots =>
    simp only [step]
    split <;> simp
  | ⟨file, [], deepest⟩ :: rest, roots => simp [step]
  | ⟨file, target :: pending, deepest⟩ :: rest, roots =>
    simp only [step]
    split <;> simp

/-- A property of the start that every move keeps holds after any number of steps. -/
theorem run_keeps (property : Traversal → Prop)
    (kept : ∀ {before after}, Move graph before after → property before → property after)
    (fuel : Nat) (holds : property state) : property (advance (step graph) fuel state) := by
  induction fuel generalizing state with
  | zero => exact holds
  | succ fuel inductionHypothesis =>
    rw [advance]
    split
    · next after stepped => exact inductionHypothesis (kept (.of_step stepped) holds)
    · exact holds

/-! ## Marks and open files -/

/-- Marks, open files and files to start from agree with each other and with the graph. -/
structure WellMarked (graph : ImportGraph) (state : Traversal) : Prop where
  visiting_iff : ∀ file, state.marks[file]? = some .inProgress ↔ file ∈ state.openFiles
  nodup : state.openFiles.Nodup
  chain : state.openFiles.IsChain fun inner outer => graph.Imports outer inner
  pending : ∀ frame ∈ state.frames, ∀ target ∈ frame.pending, graph.Imports frame.file target
  marked : ∀ file ∈ state.marks, graph.contains file = true
  roots : ∀ root ∈ state.roots, graph.contains root = true
  covered : ∀ file, graph.contains file = true → file ∈ state.marks ∨ file ∈ state.roots

/-- Deepening the frames leaves their files. -/
theorem map_file_deepen (depth : Nat) (frames : List Frame) :
    (deepen depth frames).map Frame.file = frames.map Frame.file := by
  cases frames <;> rfl

/-- Deepening changes only the depth of a frame, and never lowers it. -/
theorem exists_mem_deepen {frame : Frame} {frames : List Frame} (depth : Nat)
    (member : frame ∈ frames) :
    ∃ deepened ∈ deepen depth frames, deepened.file = frame.file ∧
      deepened.pending = frame.pending ∧ frame.deepest ≤ deepened.deepest := by
  cases member with
  | head rest => exact ⟨_, .head _, rfl, rfl, Nat.le_max_left ..⟩
  | tail first member => exact ⟨frame, .tail _ member, rfl, rfl, Nat.le_refl _⟩

/-- Every deepened frame was there, with its file and what it has left to visit. -/
theorem exists_mem_of_mem_deepen {frame : Frame} {frames : List Frame} {depth : Nat}
    (member : frame ∈ deepen depth frames) :
    ∃ before ∈ frames, before.file = frame.file ∧ before.pending = frame.pending := by
  cases frames with
  | nil => cases member
  | cons first rest =>
    cases member with
    | head => exact ⟨first, .head _, rfl, rfl⟩
    | tail _ member => exact ⟨frame, .tail _ member, rfl, rfl⟩

/-- A mark that is found is there. -/
theorem mem_marks_of_getElem? {marks : FileMap Depth} {mark : Depth}
    (found : marks[file]? = some mark) : file ∈ marks :=
  Std.ExtTreeMap.mem_iff_isSome_getElem?.mpr (Option.isSome_of_eq_some found)

/-- An open file has been met. -/
theorem WellMarked.mem_marks (well : WellMarked graph state) (isOpen : file ∈ state.openFiles) :
    file ∈ state.marks :=
  mem_marks_of_getElem? ((well.visiting_iff file).mpr isOpen)

/-- A file without a mark can be opened below the current path. -/
theorem WellMarked.opened {roots : List String} {frames : List Frame} {marks : FileMap Depth}
    {loops : List (List String)} (well : WellMarked graph ⟨roots, frames, marks, loops⟩)
    (fresh : file ∉ marks) (contained : graph.contains file = true)
    (entry : ∀ outer ∈ (frames.map Frame.file).head?, graph.Imports outer file) :
    WellMarked graph
      ⟨roots, ⟨file, graph.neighbors file, 0⟩ :: frames, marks.insert file .inProgress, loops⟩ where
  visiting_iff other := by
    have isOpen := well.visiting_iff other
    simp only [openFiles, List.map_cons, List.mem_cons] at isOpen ⊢
    rw [Std.ExtTreeMap.getElem?_insert]
    by_cases same : file = other
    · simp [same]
    · simp [same, isOpen, Ne.symm same]
  nodup := by
    refine List.nodup_cons.mpr ⟨fun isOpen => fresh (well.mem_marks isOpen), well.nodup⟩
  chain := List.isChain_cons.mpr ⟨entry, well.chain⟩
  pending frame member target waiting := by
    cases member with
    | head => exact ImportGraph.mem_neighbors_iff.mp waiting
    | tail _ member => exact well.pending frame member target waiting
  marked other known := by
    rw [Std.ExtTreeMap.mem_insert] at known
    rcases known with same | known
    · rw [← Std.LawfulEqCmp.eq_of_compare same]
      exact contained
    · exact well.marked other known
  roots := well.roots
  covered other known := by
    rw [Std.ExtTreeMap.mem_insert]
    exact (well.covered other known).imp_left Or.inr

/-- An import taken from the innermost file, with a depth that may have grown. -/
theorem WellMarked.inspected {roots pending : List String} {target : String} {deepest grown : Nat}
    {rest : List Frame} {marks : FileMap Depth} {loops loops' : List (List String)}
    (well : WellMarked graph ⟨roots, ⟨file, target :: pending, deepest⟩ :: rest, marks, loops⟩) :
    WellMarked graph ⟨roots, ⟨file, pending, grown⟩ :: rest, marks, loops'⟩ where
  visiting_iff := well.visiting_iff
  nodup := well.nodup
  chain := well.chain
  pending frame member other waiting := by
    cases member with
    | head => exact well.pending _ (.head _) other (.tail _ waiting)
    | tail _ member => exact well.pending frame (.tail _ member) other waiting
  marked := well.marked
  roots := well.roots
  covered := well.covered

/-- A move keeps the marks in step with the path. -/
theorem WellMarked.move (well : WellMarked graph state) (moved : Move graph state next) :
    WellMarked graph next := by
  cases moved with
  | pass known =>
    refine { well with roots := fun root member => well.roots root (.tail _ member), covered := ?_ }
    intro file contained
    rcases well.covered file contained with marked | waiting
    · exact .inl marked
    · cases waiting with
      | head => exact .inl known
      | tail _ waiting => exact .inr waiting
  | @start root roots marks loops fresh =>
    have contained : graph.contains root = true := well.roots root (.head _)
    have opened := well.opened fresh contained (by simp)
    refine { opened with
      roots := fun other member => well.roots other (.tail _ member), covered := ?_ }
    intro file known
    rcases opened.covered file known with marked | waiting
    · exact .inl marked
    · cases waiting with
      | head => exact .inl (by simp)
      | tail _ waiting => exact .inr waiting
  | @close roots file deepest rest marks loops =>
    have outerOpen : openFiles ⟨roots, deepen deepest rest, marks, loops⟩ = rest.map Frame.file :=
      map_file_deepen deepest rest
    have visiting : marks[file]? = some .inProgress := (well.visiting_iff file).mpr (.head _)
    obtain ⟨notOpen, nodup⟩ := List.nodup_cons.mp well.nodup
    refine { visiting_iff := fun other => ?_, nodup := ?_, chain := ?_, pending := ?_, marked := ?_,
             roots := well.roots, covered := ?_ }
    · have isOpen := well.visiting_iff other
      simp only [openFiles, map_file_deepen, List.map_cons, List.mem_cons] at isOpen ⊢
      rw [Std.ExtTreeMap.getElem?_insert]
      by_cases same : file = other
      · subst same
        simpa using notOpen
      · simp [same, isOpen, Ne.symm same]
    · simpa only [openFiles, map_file_deepen] using nodup
    · simpa only [openFiles, map_file_deepen] using (List.isChain_cons.mp well.chain).2
    · intro frame member target waiting
      obtain ⟨before, member, sameFile, samePending⟩ := exists_mem_of_mem_deepen member
      rw [← sameFile]
      exact well.pending before (.tail _ member) target (samePending ▸ waiting)
    · intro other known
      rw [Std.ExtTreeMap.mem_insert] at known
      rcases known with same | known
      · rw [← Std.LawfulEqCmp.eq_of_compare same]
        exact well.marked file (mem_marks_of_getElem? visiting)
      · exact well.marked other known
    · intro other known
      rw [Std.ExtTreeMap.mem_insert]
      exact (well.covered other known).imp_left Or.inr
  | loop => exact well.inspected
  | count => exact well.inspected
  | @descend roots file target pending deepest rest marks loops fresh =>
    have edge : graph.Imports file target := well.pending _ (.head _) target (.head _)
    refine well.inspected.opened fresh edge.contains_target ?_
    simpa using edge

/-! ## Imports that count for the depth -/

/-- The import of `target` by `source` counts for the depth of `source`, now or when `target`
closes. -/
inductive Below (state : Traversal) : String → String → Prop where
  | closed {source target : String} {depth lower : Nat}
      (sourceClosed : state.marks[source]? = some (.known depth))
      (targetClosed : state.marks[target]? = some (.known lower)) (falls : lower < depth) :
      Below state source target
  | counted (frame : Frame) {target : String} {lower : Nat} (member : frame ∈ state.frames)
      (targetClosed : state.marks[target]? = some (.known lower)) (falls : lower < frame.deepest) :
      Below state frame.file target
  /-- `target` was opened from `source` and is still open. -/
  | entered {source target : String} (adjacent : [target, source] <:+: state.openFiles) :
      Below state source target

/-- Of two files below one another both have been met. -/
theorem Below.mem_marks (below : Below state source target) (well : WellMarked graph state) :
    source ∈ state.marks ∧ target ∈ state.marks := by
  cases below with
  | closed sourceClosed targetClosed =>
    exact ⟨mem_marks_of_getElem? sourceClosed, mem_marks_of_getElem? targetClosed⟩
  | counted frame member targetClosed =>
    exact ⟨well.mem_marks (List.mem_map_of_mem member), mem_marks_of_getElem? targetClosed⟩
  | entered adjacent =>
    have listed := adjacent.subset
    exact ⟨well.mem_marks (listed (by simp)), well.mem_marks (listed (by simp))⟩

/-- A closed file keeps its depth. -/
theorem Move.done_stays (moved : Move graph state next) (well : WellMarked graph state)
    {depth : Nat} (closed : state.marks[file]? = some (.known depth)) :
    next.marks[file]? = some (.known depth) := by
  cases moved with
  | pass => exact closed
  | loop => exact closed
  | count => exact closed
  | @start root _ marks =>
    have other : root ≠ file := by
      rintro rfl
      exact ‹root ∉ marks› (mem_marks_of_getElem? closed)
    simpa [Std.ExtTreeMap.getElem?_insert, other] using closed
  | @descend _ _ target _ _ _ marks =>
    have other : target ≠ file := by
      rintro rfl
      exact ‹target ∉ marks› (mem_marks_of_getElem? closed)
    simpa [Std.ExtTreeMap.getElem?_insert, other] using closed
  | @close _ top =>
    have other : top ≠ file := by
      rintro rfl
      have visiting := (well.visiting_iff top).mpr (.head _)
      simp_all
    simpa [Std.ExtTreeMap.getElem?_insert, other] using closed

/-- Marks are never taken back. -/
theorem Move.mark_stays (moved : Move graph state next) (known : file ∈ state.marks) :
    file ∈ next.marks := by
  cases moved with
  | pass => exact known
  | loop => exact known
  | count => exact known
  | start => exact Std.ExtTreeMap.mem_insert.mpr (.inr known)
  | descend => exact Std.ExtTreeMap.mem_insert.mpr (.inr known)
  | close => exact Std.ExtTreeMap.mem_insert.mpr (.inr known)

/-- Neighbors of a list stand at its head or in its rest. -/
theorem adjacent_cons {inner outer head : String} {rest : List String}
    (adjacent : [inner, outer] <:+: head :: rest) :
    (inner = head ∧ rest.head? = some outer) ∨ [inner, outer] <:+: rest := by
  rw [List.infix_cons_iff] at adjacent
  rcases adjacent with ⟨suffix, same⟩ | within
  · left
    simp only [List.cons_append, List.nil_append, List.cons.injEq] at same
    obtain ⟨sameHead, sameRest⟩ := same
    exact ⟨sameHead, by rw [← sameRest]; rfl⟩
  · exact .inr within

/-- An import that counts keeps counting. -/
theorem Below.move (below : Below state source target) (moved : Move graph state next)
    (well : WellMarked graph state) : Below next source target := by
  cases below with
  | closed sourceClosed targetClosed falls =>
    exact .closed (moved.done_stays well sourceClosed) (moved.done_stays well targetClosed) falls
  | @counted frame target lower member targetClosed falls =>
    have stays := moved.done_stays well targetClosed
    cases moved with
    | pass => cases member
    | start => cases member
    | @loop _ file _ pending deepest =>
      cases member with
      | head => exact .counted ⟨file, pending, deepest⟩ (.head _) stays falls
      | tail _ member => exact .counted frame (.tail _ member) stays falls
    | @count _ file _ pending deepest _ _ _ counted =>
      cases member with
      | head =>
        refine .counted ⟨file, pending, max deepest (counted + 1)⟩ (.head _) stays ?_
        exact Nat.lt_of_lt_of_le falls (Nat.le_max_left ..)
      | tail _ member => exact .counted frame (.tail _ member) stays falls
    | @descend _ file _ pending deepest =>
      cases member with
      | head => exact .counted ⟨file, pending, deepest⟩ (.tail _ (.head _)) stays falls
      | tail _ member => exact .counted frame (.tail _ (.tail _ member)) stays falls
    | @close _ file deepest =>
      cases member with
      | head => exact .closed (by simp) stays falls
      | tail _ member =>
        obtain ⟨deepened, member, sameFile, -, grown⟩ := exists_mem_deepen deepest member
        rw [← sameFile]
        exact .counted deepened member stays (Nat.lt_of_lt_of_le falls grown)
  | entered adjacent =>
    cases moved with
    | pass => exact .entered adjacent
    | start => simp [openFiles] at adjacent
    | loop => exact .entered adjacent
    | count => exact .entered adjacent
    | descend => exact .entered (adjacent.trans (List.suffix_cons _ _).isInfix)
    | @close _ file deepest rest marks =>
      simp only [openFiles, List.map_cons] at adjacent
      rcases adjacent_cons adjacent with ⟨same, outerHead⟩ | within
      · -- The file that closes hands its depth to the file it was opened from.
        subst same
        cases rest with
        | nil => cases outerHead
        | cons outer rest =>
          cases outerHead
          have closed : (marks.insert target (.known deepest))[target]? = some (.known deepest) := by
            simp
          refine .counted { outer with deepest := max outer.deepest (deepest + 1) } (.head _)
            closed ?_
          exact Nat.lt_of_lt_of_le (Nat.lt_succ_self _) (Nat.le_max_right ..)
      · refine .entered ?_
        simpa only [openFiles, map_file_deepen] using within

/-! ## Loops -/

/-- One of the loops ends with the import of `target` by `source`. -/
def Closes (loops : List (List String)) (source target : String) : Prop :=
  ∃ loop ∈ loops, loop.head? = some target ∧ loop.getLast? = some source

/-- A loop along which every import counts but the one that closes it. -/
structure LoopOf (graph : ImportGraph) (state : Traversal) (loop : List String) : Prop where
  nodup : loop.Nodup
  chain : loop.IsChain fun source target => graph.Imports source target ∧ Below state source target
  closing : ∃ first last, loop.head? = some first ∧ loop.getLast? = some last ∧
    graph.Imports last first

/-- A move leaves every loop that was found a loop. -/
theorem LoopOf.move {loop : List String} (before : LoopOf graph state loop)
    (moved : Move graph state next) (well : WellMarked graph state) : LoopOf graph next loop :=
  { before with chain := before.chain.imp fun _ _ edge => edge.imp_right (·.move moved well) }

/-- The loop closed at an open file is the open path from there on. -/
theorem loopFrom_eq {inner outer : List String} (nodup : state.openFiles.Nodup)
    (split : state.openFiles = inner ++ file :: outer) :
    state.loopFrom file = file :: inner.reverse := by
  have reversed : state.path = outer.reverse ++ file :: inner.reverse := by
    have path : state.path = state.openFiles.reverse := rfl
    simp [path, split]
  have apart : file ∉ outer.reverse := by
    rw [split] at nodup
    have behind := (List.nodup_append.mp nodup).2.1
    exact fun member => (List.nodup_cons.mp behind).1 (List.mem_reverse.mp member)
  rw [loopFrom, reversed, dropWhile_ne_append apart]

/-- A list is a chain of its own neighbors. -/
theorem isChain_adjacent (files : List String) :
    files.IsChain fun inner outer => [inner, outer] <:+: files := by
  induction files with
  | nil => exact .nil
  | cons first rest inductionHypothesis =>
    refine List.isChain_cons.mpr ⟨?_, ?_⟩
    · intro second isHead
      cases rest with
      | nil => cases isHead
      | cons other rest =>
        cases isHead
        exact ⟨[], rest, rfl⟩
    · exact inductionHypothesis.imp fun _ _ adjacent =>
        adjacent.trans (List.suffix_cons _ _).isInfix

/-- Along the open path, every import counts. -/
theorem WellMarked.chain_below (well : WellMarked graph state) :
    state.openFiles.IsChain fun inner outer =>
      graph.Imports outer inner ∧ Below state outer inner := by
  have adjacent := isChain_adjacent state.openFiles
  have edges := well.chain
  rw [List.isChain_iff_getElem] at adjacent edges ⊢
  exact fun index bound => ⟨edges index bound, .entered (adjacent index bound)⟩

/-- An import of the innermost file that is itself open closes a loop. -/
theorem WellMarked.loopOf (well : WellMarked graph state) {last : String}
    (isOpen : file ∈ state.openFiles) (isLast : state.openFiles.head? = some last)
    (edge : graph.Imports last file) :
    LoopOf graph state (state.loopFrom file) ∧ (state.loopFrom file).head? = some file ∧
      (state.loopFrom file).getLast? = some last := by
  obtain ⟨inner, outer, split⟩ := List.append_of_mem isOpen
  have loop := loopFrom_eq well.nodup split
  have mirrored : file :: inner.reverse = (inner ++ [file]).reverse := by simp
  have opening : (inner ++ [file]) <:+: state.openFiles := ⟨[], outer, by simp [split]⟩
  have endsAt : (file :: inner.reverse).getLast? = some last := by
    rw [mirrored, List.getLast?_reverse, ← isLast, split]
    cases inner <;> rfl
  rw [loop]
  refine ⟨⟨?_, ?_, ⟨file, last, rfl, endsAt, edge⟩⟩, rfl, endsAt⟩
  · rw [mirrored]
    exact List.nodup_reverse.mpr (well.nodup.sublist opening.sublist)
  · rw [mirrored, List.isChain_reverse]
    exact List.IsChain.infix well.chain_below opening

/-! ## Every import is accounted for -/

/-- What is known of the imports of the files met so far, and of the loops closed so far. -/
structure Accounted (graph : ImportGraph) (state : Traversal) : Prop where
  imports : ∀ source ∈ state.marks, ∀ target, graph.Imports source target →
    (∃ frame ∈ state.frames, frame.file = source ∧ target ∈ frame.pending) ∨
      Below state source target ∨ Closes state.loops source target
  loops : ∀ loop ∈ state.loops, LoopOf graph state loop

/-- One loop more does not open an edge that another one closes. -/
theorem Closes.cons {loops : List (List String)} {loop : List String}
    (closes : Closes loops source target) : Closes (loop :: loops) source target := by
  obtain ⟨earlier, member, ends⟩ := closes
  exact ⟨earlier, .tail _ member, ends⟩

/-- A move leaves every edge of a closed file accounted for. -/
theorem Accounted.move (accounted : Accounted graph state) (moved : Move graph state next)
    (well : WellMarked graph state) : Accounted graph next := by
  have below : ∀ {source target}, Below state source target → Below next source target :=
    fun below => below.move moved well
  have loopsKept : ∀ loop ∈ state.loops, LoopOf graph next loop :=
    fun loop member => (accounted.loops loop member).move moved well
  cases moved with
  | pass =>
    refine ⟨fun source known target edge => ?_, loopsKept⟩
    rcases accounted.imports source known target edge with waiting | counts | closes
    · exact .inl waiting
    · exact .inr (.inl (below counts))
    · exact .inr (.inr closes)
  | @start root _ marks =>
    refine ⟨fun source known target edge => ?_, loopsKept⟩
    rw [Std.ExtTreeMap.mem_insert] at known
    rcases known with same | known
    · cases Std.LawfulEqCmp.eq_of_compare same
      exact .inl ⟨_, .head _, rfl, ImportGraph.mem_neighbors_iff.mpr edge⟩
    · rcases accounted.imports source known target edge with ⟨_, member, _⟩ | counts | closes
      · cases member
      · exact .inr (.inl (below counts))
      · exact .inr (.inr closes)
  | @close _ file deepest rest marks =>
    refine ⟨fun source known target edge => ?_, loopsKept⟩
    have before : source ∈ marks := by
      rw [Std.ExtTreeMap.mem_insert] at known
      rcases known with same | known
      · cases Std.LawfulEqCmp.eq_of_compare same
        exact well.mem_marks (.head _)
      · exact known
    rcases accounted.imports source before target edge with
      ⟨frame, member, sameFile, waiting⟩ | counts | closes
    · cases member with
      | head => cases waiting
      | tail _ member =>
        obtain ⟨deepened, member, keptFile, keptPending, -⟩ := exists_mem_deepen deepest member
        exact .inl ⟨deepened, member, keptFile.trans sameFile, keptPending ▸ waiting⟩
    · exact .inr (.inl (below counts))
    · exact .inr (.inr closes)
  | @loop roots file target pending deepest rest marks loops visiting =>
    have isOpen := (well.visiting_iff target).mp visiting
    have edge : graph.Imports file target := well.pending _ (.head _) target (.head _)
    obtain ⟨loopOf, starts, ends⟩ := well.loopOf isOpen rfl edge
    refine ⟨fun source known other otherEdge => ?_, ?_⟩
    · rcases accounted.imports source known other otherEdge with
        ⟨frame, member, sameFile, waiting⟩ | counts | closes
      · cases member with
        | head =>
          cases waiting with
          | head => exact .inr (.inr ⟨_, .head _, starts, sameFile ▸ ends⟩)
          | tail _ waiting => exact .inl ⟨_, .head _, sameFile, waiting⟩
        | tail _ member => exact .inl ⟨frame, .tail _ member, sameFile, waiting⟩
      · exact .inr (.inl (below counts))
      · exact .inr (.inr closes.cons)
    · intro loop member
      cases member with
      | head => exact loopOf.move (.loop visiting) well
      | tail _ member => exact loopsKept loop member
  | @count roots file target pending deepest rest marks loops lower closed =>
    refine ⟨fun source known other otherEdge => ?_, loopsKept⟩
    rcases accounted.imports source known other otherEdge with
      ⟨frame, member, sameFile, waiting⟩ | counts | closes
    · cases member with
      | head =>
        cases waiting with
        | head =>
          subst sameFile
          refine .inr (.inl (.counted ⟨file, pending, max deepest (lower + 1)⟩ (.head _)
            closed ?_))
          exact Nat.lt_of_lt_of_le (Nat.lt_succ_self _) (Nat.le_max_right ..)
        | tail _ waiting => exact .inl ⟨_, .head _, sameFile, waiting⟩
      | tail _ member => exact .inl ⟨frame, .tail _ member, sameFile, waiting⟩
    · exact .inr (.inl (below counts))
    · exact .inr (.inr closes)
  | @descend roots file target pending deepest rest marks loops fresh =>
    refine ⟨fun source known other otherEdge => ?_, loopsKept⟩
    rw [Std.ExtTreeMap.mem_insert] at known
    rcases known with same | known
    · cases Std.LawfulEqCmp.eq_of_compare same
      exact .inl ⟨_, .head _, rfl, ImportGraph.mem_neighbors_iff.mpr otherEdge⟩
    · rcases accounted.imports source known other otherEdge with
        ⟨frame, member, sameFile, waiting⟩ | counts | closes
      · cases member with
        | head =>
          cases waiting with
          | head =>
            subst sameFile
            exact .inr (.inl (.entered ⟨[], rest.map Frame.file, rfl⟩))
          | tail _ waiting => exact .inl ⟨_, .tail _ (.head _), sameFile, waiting⟩
        | tail _ member => exact .inl ⟨frame, .tail _ (.tail _ member), sameFile, waiting⟩
      · exact .inr (.inl (below counts))
      · exact .inr (.inr closes)

/-! ## The search ends -/

/-- The files that have no mark yet. -/
def unmet (graph : ImportGraph) (marks : FileMap Depth) : List String :=
  graph.files.filter fun file => file ∉ marks

/-- The steps that opening a file and inspecting its imports will take. -/
def fileSteps (graph : ImportGraph) (file : String) : Nat := (graph.neighbors file).length + 1

/-- The steps that are left at most: one for each file to start from, one for closing each open
file and for each import it still has to inspect, and those of the files not met yet. -/
def stepsLeft (graph : ImportGraph) (state : Traversal) : Nat :=
  state.roots.length + total (state.frames.map fun frame => frame.pending.length + 1) +
    total ((unmet graph state.marks).map (fileSteps graph))

/-- Deepening the frames leaves the count of what they have to visit. -/
theorem map_pending_deepen (depth : Nat) (frames : List Frame) :
    ((deepen depth frames).map fun frame => frame.pending.length + 1) =
      frames.map fun frame => frame.pending.length + 1 := by
  cases frames <;> rfl

/-- Marking a file takes its steps out of those of the files not met yet. -/
theorem total_unmet_insert {marks : FileMap Depth} (mark : Depth)
    (contained : graph.contains file = true) (fresh : file ∉ marks) :
    total ((unmet graph marks).map (fileSteps graph)) =
      (graph.neighbors file).length + 1 +
        total ((unmet graph (marks.insert file mark)).map (fileSteps graph)) := by
  have listed : file ∈ unmet graph marks := by
    refine List.mem_filter.mpr ⟨ImportGraph.mem_files_iff.mpr contained, ?_⟩
    simpa using fresh
  have nodup : (unmet graph marks).Nodup := Std.ExtTreeMap.nodup_keys.filter _
  have erased : unmet graph (marks.insert file mark) = (unmet graph marks).erase file := by
    rw [nodup.erase_eq_filter, unmet, unmet, List.filter_filter]
    refine List.filter_congr fun other _ => ?_
    by_cases same : file = other
    · simp [same]
    · simp [same, Ne.symm same]
  rw [erased]
  exact total_perm ((List.perm_cons_erase listed).map (fileSteps graph))

/-- Marking a file anew changes nothing in the files not met yet. -/
theorem unmet_insert_of_mem (graph : ImportGraph) {marks : FileMap Depth} (mark : Depth)
    (known : file ∈ marks) :
    unmet graph (marks.insert file mark) = unmet graph marks := by
  refine List.filter_congr fun other _ => ?_
  by_cases same : file = other
  · simp [← same, known]
  · simp [same]

/-- Every move takes exactly one of the steps left. -/
theorem Move.stepsLeft_eq (moved : Move graph state next) (well : WellMarked graph state) :
    stepsLeft graph state = stepsLeft graph next + 1 := by
  cases moved with
  | pass =>
    simp only [stepsLeft, List.length_cons]
    omega
  | start fresh =>
    have share := total_unmet_insert .inProgress (well.roots _ (.head _)) fresh
    simp only [stepsLeft, List.length_cons, List.map_cons, List.map_nil, total]
    omega
  | @close _ file deepest rest marks =>
    have kept := unmet_insert_of_mem graph (.known deepest) (well.mem_marks (.head _))
    simp only [stepsLeft, kept, map_pending_deepen, List.map_cons, total, List.length_nil]
    omega
  | loop =>
    simp only [stepsLeft, List.map_cons, total, List.length_cons]
    omega
  | count =>
    simp only [stepsLeft, List.map_cons, total, List.length_cons]
    omega
  | descend fresh =>
    have edge := well.pending _ (.head _) _ (.head _)
    have share := total_unmet_insert .inProgress edge.contains_target fresh
    simp only [stepsLeft, List.map_cons, total, List.length_cons]
    omega

/-- With as many steps as are left the search comes to its end. -/
theorem step_run_eq_none (well : WellMarked graph state) {fuel : Nat}
    (enough : stepsLeft graph state ≤ fuel) :
    step graph (advance (step graph) fuel state) = none := by
  induction fuel generalizing state with
  | zero =>
    rw [advance]
    cases stepped : step graph state with
    | none => rfl
    | some next =>
      have taken := (Move.of_step stepped).stepsLeft_eq well
      omega
  | succ fuel inductionHypothesis =>
    rw [advance]
    split
    · next after stepped =>
      have moved := Move.of_step stepped
      have taken := moved.stepsLeft_eq well
      exact inductionHypothesis (well.move moved) (by omega)
    · next stopped => exact stopped

/-- At the start nothing is marked and no file is open. -/
theorem WellMarked.start (graph : ImportGraph) : WellMarked graph { roots := graph.files } where
  visiting_iff file := by simp [openFiles]
  nodup := List.nodup_nil
  chain := .nil
  pending frame member := by cases member
  marked file known := by simp at known
  roots root listed := ImportGraph.mem_files_iff.mp listed
  covered file contained := .inr (ImportGraph.mem_files_iff.mpr contained)

/-- At the start no edge has to be accounted for. -/
theorem Accounted.start (graph : ImportGraph) : Accounted graph { roots := graph.files } where
  imports source known := by simp at known
  loops loop member := by cases member

/-- At the start there are steps for every file, twice, and for every edge. -/
theorem stepsLeft_start (graph : ImportGraph) :
    stepsLeft graph { roots := graph.files } = 2 * graph.size + graph.edges.length := by
  have allUnmet : unmet graph ∅ = graph.files :=
    List.filter_eq_self.mpr fun file _ => by simp
  have perFile : total (graph.files.map (fileSteps graph)) =
      graph.edges.length + graph.files.length := by
    rw [ImportGraph.edges, List.length_flatMap]
    induction graph.files with
    | nil => rfl
    | cons file rest inductionHypothesis =>
      simp only [List.map_cons, total, List.sum_cons, List.length_map, List.length_cons, fileSteps]
      simp only [List.length_map] at inductionHypothesis
      omega
  have size : graph.files.length = graph.size := Std.ExtTreeMap.length_keys
  simp only [stepsLeft, allUnmet, List.map_nil, total]
  omega

end Graph.Traversal

namespace ImportGraph

open SourceAtlas.Graph SourceAtlas.Graph.Traversal

variable {graph : ImportGraph} {source target : String}

/-- The marks are in step with the path after any number of steps. -/
theorem wellMarked_searchAt (graph : ImportGraph) (steps : Nat) :
    WellMarked graph (graph.searchAt steps) :=
  run_keeps (WellMarked graph) (fun moved well => well.move moved) steps (.start graph)

/-- Every edge of a closed file is accounted for after any number of steps. -/
theorem accounted_searchAt (graph : ImportGraph) (steps : Nat) :
    Accounted graph (graph.searchAt steps) := by
  have both : WellMarked graph (graph.searchAt steps) ∧ Accounted graph (graph.searchAt steps) :=
    run_keeps (fun state => WellMarked graph state ∧ Accounted graph state)
      (fun moved held => ⟨held.1.move moved, held.2.move moved held.1⟩) steps
      ⟨.start graph, .start graph⟩
  exact both.2

/-- The traversal of a graph leaves nothing open and nothing to start from. -/
theorem traversal_finished (graph : ImportGraph) :
    graph.traversal.frames = [] ∧ graph.traversal.roots = [] := by
  have enough : stepsLeft graph { roots := graph.files } ≤ graph.searchSteps := by
    rw [stepsLeft_start, searchSteps]
    omega
  exact step_eq_none_iff.mp (step_run_eq_none (.start graph) enough)

/-- The marks are in step with the path at the end of the search. -/
theorem wellMarked_traversal (graph : ImportGraph) : WellMarked graph graph.traversal :=
  wellMarked_searchAt graph _

/-- Every edge of a closed file is accounted for at the end of the search. -/
theorem accounted_traversal (graph : ImportGraph) : Accounted graph graph.traversal :=
  accounted_searchAt graph _

/-- The depth that the traversal finds for a file. -/
def searchDepth (graph : ImportGraph) (file : String) : Nat :=
  match graph.traversal.marks[file]? with
  | some (.known depth) => depth
  | _ => 0

/-- A file below another one has the smaller depth. -/
theorem searchDepth_lt_of_below (below : Below graph.traversal source target) :
    graph.searchDepth target < graph.searchDepth source := by
  have noFrames := (traversal_finished graph).1
  cases below with
  | closed sourceClosed targetClosed falls =>
    simpa [searchDepth, sourceClosed, targetClosed] using falls
  | counted frame member => simp [noFrames] at member
  | entered adjacent => simp [openFiles, noFrames] at adjacent

/-- An import leads to a file of smaller depth, or it closes one of the loops. -/
theorem Imports.falls_or_closes (edge : graph.Imports source target) :
    graph.searchDepth target < graph.searchDepth source ∨
      Closes graph.traversal.loops source target := by
  obtain ⟨noFrames, noRoots⟩ := traversal_finished graph
  have known : source ∈ graph.traversal.marks := by
    rcases (wellMarked_traversal graph).covered source edge.contains_source with known | waiting
    · exact known
    · rw [noRoots] at waiting
      cases waiting
  rcases (accounted_traversal graph).imports source known target edge with
    ⟨frame, member, -⟩ | below | closes
  · rw [noFrames] at member
    cases member
  · exact .inl (searchDepth_lt_of_below below)
  · exact .inr closes

end ImportGraph

end SourceAtlas
