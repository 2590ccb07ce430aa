import SourceAtlas.Graph.Report
import SourceAtlas.Proofs.Graph.Cycles
import SourceAtlas.Proofs.Graph.Discovery

/-!
# Files that take part in a reported cycle

The report holds the loops that the search closes on its path, not every cycle
of the graph. `takesPart_iff` says which files it covers: those that lead, along
files met no earlier than themselves, to an import of a file that leads to them
in the same way. A file on a cycle that runs through files met earlier is left
out (`chordedLoop` has one).
-/

namespace SourceAtlas.ImportGraph

open Relation SourceAtlas.Graph SourceAtlas.Graph.Traversal

variable {graph : ImportGraph} {file source target : String} {steps : Nat}

/-- Some reported cycle has the file. -/
def TakesPart (graph : ImportGraph) (file : String) : Prop :=
  ∃ cycle ∈ graph.cycles, file ∈ cycle.files

/-- The file lies on a way from a file `top` down to a file `bottom` that imports `top` again, and
no file on the way was met before the end of its half that it comes from: not before `top` on the
way to the file, not before the file on the way to `bottom`. -/
def ClosesBehind (graph : ImportGraph) (file : String) : Prop :=
  ∃ top bottom, graph.ReachesLater top file ∧ graph.ReachesLater file bottom ∧
    graph.Imports bottom top

/-! ## A loop and the moment it was closed -/

/-- A loop was closed at a moment at which its last file was innermost and its first was open. -/
theorem exists_closing_moment {loop : List String}
    (member : loop ∈ (graph.searchAt steps).loops) :
    ∃ moment first last, (graph.searchAt moment).openFiles.head? = some last ∧
      first ∈ (graph.searchAt moment).openFiles ∧ graph.Imports last first ∧
      loop = (graph.searchAt moment).loopFrom first := by
  induction steps with
  | zero => cases member
  | succ steps inductionHypothesis =>
    rcases searchAt_succ graph steps with moved | ⟨same, -⟩
    · by_cases earlier : loop ∈ (graph.searchAt steps).loops
      · exact inductionHypothesis earlier
      · have well := wellMarked_searchAt graph steps
        refine ⟨steps, ?_⟩
        generalize graph.searchAt steps = state at *
        generalize graph.searchAt (steps + 1) = next at *
        cases moved with
        | pass => exact absurd member earlier
        | start => exact absurd member earlier
        | close => exact absurd member earlier
        | count => exact absurd member earlier
        | descend => exact absurd member earlier
        | @loop _ last first _ _ _ _ _ visiting =>
          have edge : graph.Imports last first := well.pending _ (.head _) first (.head _)
          refine ⟨first, last, rfl, (well.visiting_iff first).mp visiting, edge, ?_⟩
          exact (List.mem_cons.mp member).resolve_right earlier
    · exact inductionHypothesis (same ▸ member)

/-- A chain whose files were not met before a file is a chain of later files. -/
theorem chain_not_metBefore {first : String} {rest : List String}
    (chain : (first :: rest).IsChain graph.Imports)
    (later : ∀ next ∈ rest, ¬ graph.MetBefore next source) :
    (first :: rest).IsChain fun file next =>
      graph.Imports file next ∧ ¬ graph.MetBefore next source := by
  induction rest generalizing first with
  | nil => exact List.isChain_singleton first
  | cons second rest inductionHypothesis =>
    obtain ⟨edge, onwards⟩ := List.isChain_cons_cons.mp chain
    refine List.isChain_cons_cons.mpr ⟨⟨edge, later second (.head _)⟩, ?_⟩
    exact inductionHypothesis onwards fun next member => later next (.tail _ member)

/-- Along a chain in the order of meeting, the first file reaches every other later. -/
theorem reachesLater_along {first last : String} {files : List String}
    (chain : files.IsChain graph.Imports) (ordered : files.Pairwise graph.MetBefore)
    (starts : files.head? = some first) (ends : files.getLast? = some last) :
    graph.ReachesLater first last := by
  cases files with
  | nil => cases starts
  | cons head rest =>
    cases starts
    have later := (List.pairwise_cons.mp ordered).1
    have narrowed := chain_not_metBefore chain fun next member => (later next member).asymm
    refine List.relationReflTransGen_of_exists_isChain_cons rest narrowed ?_
    rw [List.getLast?_eq_some_getLast (by simp)] at ends
    exact Option.some.inj ends

/-- The open path is a chain of imports in the order of meeting. -/
theorem path_ordered (graph : ImportGraph) (steps : Nat) :
    (graph.searchAt steps).path.IsChain graph.Imports ∧
      (graph.searchAt steps).path.Pairwise graph.MetBefore :=
  ⟨List.isChain_reverse.mpr (wellMarked_searchAt graph steps).chain,
    List.pairwise_reverse.mpr (openFiles_pairwise graph steps)⟩

/-- A file of a reported cycle closes behind. -/
theorem ClosesBehind.of_takesPart (takesPart : graph.TakesPart file) :
    graph.ClosesBehind file := by
  obtain ⟨cycle, reported, member⟩ := takesPart
  have closed : cycle.files ∈ (graph.searchAt graph.searchSteps).loops :=
    graph.cycles_inStep.reported cycle reported
  obtain ⟨moment, first, last, innermost, isOpen, edge, isLoop⟩ := exists_closing_moment closed
  rw [isLoop] at member
  have well := wellMarked_searchAt graph moment
  obtain ⟨-, starts, ends⟩ := well.loopOf isOpen innermost edge
  have onPath : (graph.searchAt moment).loopFrom first <:+ (graph.searchAt moment).path :=
    List.dropWhile_suffix _
  have chain := (path_ordered graph moment).1.suffix onPath
  have ordered := (path_ordered graph moment).2.sublist onPath.sublist
  -- The loop is cut at the file: one half leads to it, the other one from it.
  obtain ⟨before, behind, split⟩ := List.append_of_mem member
  have upTo : before ++ [file] <:+: (graph.searchAt moment).loopFrom first :=
    ⟨[], behind, by simp [split]⟩
  have onwards : file :: behind <:+: (graph.searchAt moment).loopFrom first :=
    ⟨before, [], by simp [split]⟩
  rw [split] at starts ends
  have chainUpTo : (before ++ [file]).IsChain graph.Imports := List.IsChain.infix chain upTo
  have chainOnwards : (file :: behind).IsChain graph.Imports := List.IsChain.infix chain onwards
  refine ⟨first, last, ?_, ?_, edge⟩
  · refine reachesLater_along chainUpTo (ordered.sublist upTo.sublist) ?_ (by simp)
    cases before with
    | nil => exact starts
    | cons head rest => exact starts
  · refine reachesLater_along chainOnwards (ordered.sublist onwards.sublist) rfl ?_
    rwa [List.getLast?_append_of_ne_nil _ (by simp)] at ends

/-! ## Every such file is reported -/

/-- While a file that is reached later is open, so is the file it is reached from. -/
theorem ReachesLater.open_source (reaches : graph.ReachesLater source target)
    (isOpen : target ∈ (graph.searchAt steps).openFiles) :
    source ∈ (graph.searchAt steps).openFiles := by
  have well := wellMarked_searchAt graph steps
  have known : source ∈ (graph.searchAt steps).marks := by
    by_contra new
    exact reaches.not_metBefore ⟨steps, well.mem_marks isOpen, new⟩
  refine (closed_or_open well known).resolve_left fun closed => ?_
  exact not_open_of_closed well (reaches.closed closed) isOpen

/-- Of two open files the one met first lies above the other on the path. -/
theorem above_of_not_metBefore {lower upper : String} (different : lower ≠ upper)
    (lowerOpen : lower ∈ (graph.searchAt steps).openFiles)
    (upperOpen : upper ∈ (graph.searchAt steps).openFiles)
    (notBefore : ¬ graph.MetBefore lower upper) :
    ∃ inner middle outer,
      (graph.searchAt steps).openFiles = inner ++ lower :: middle ++ upper :: outer := by
  obtain ⟨inner, outer, split⟩ := List.append_of_mem upperOpen
  have ordered := openFiles_pairwise graph steps
  rw [split] at lowerOpen ordered
  rcases List.mem_append.mp lowerOpen with below | rest
  · obtain ⟨deeper, middle, splitInner⟩ := List.append_of_mem below
    exact ⟨deeper, middle, outer, by rw [split, splitInner]⟩
  · rcases List.mem_cons.mp rest with same | above
    · exact absurd same different
    · have tail := (List.pairwise_append.mp ordered).2.1
      exact absurd ((List.pairwise_cons.mp tail).1 lower above) notBefore

/-- The files entered one from another along the path come out with falling depths. -/
theorem searchDepth_lt_of_above {lower upper : String} {inner middle outer : List String}
    (split : (graph.searchAt steps).openFiles = inner ++ lower :: middle ++ upper :: outer) :
    graph.searchDepth lower < graph.searchDepth upper := by
  have within : lower :: middle ++ [upper] <:+: (graph.searchAt steps).openFiles :=
    ⟨inner, outer, by simp [split]⟩
  have chain := List.IsChain.infix (wellMarked_searchAt graph steps).chain_below within
  have falling : (lower :: middle ++ [upper]).IsChain fun inside outside =>
      graph.searchDepth inside < graph.searchDepth outside :=
    chain.imp fun inside outside both => searchDepth_lt_of_below
      (traversal_keeps (Below · outside inside)
        (fun moved well below => below.move moved well) both.2)
  have rising := List.isChain_iff_pairwise.mp falling
  exact (List.pairwise_append.mp rising).2.2 lower (.head _) upper (.head _)

/-- A file that closes behind is on a reported cycle. -/
theorem ClosesBehind.takesPart (closesBehind : graph.ClosesBehind file) :
    graph.TakesPart file := by
  obtain ⟨top, bottom, down, onwards, edge⟩ := closesBehind
  rcases edge.falls_or_closes with falls | ⟨loop, member, starts, ends⟩
  · -- Were the last import no loop, `bottom` would have to close after `top`, which opened it.
    exfalso
    have different : bottom ≠ top := by
      rintro rfl
      exact Nat.lt_irrefl _ falls
    have met : bottom ∈ (graph.searchAt graph.searchSteps).marks := by
      rcases (wellMarked_traversal graph).covered bottom edge.contains_source with met | waiting
      · exact met
      · rw [(traversal_finished graph).2] at waiting
        cases waiting
    obtain ⟨moment, bottomOpen⟩ := exists_open_of_mem_marks met
    have fileOpen := onwards.open_source bottomOpen
    have topOpen := down.open_source fileOpen
    have notBefore : ¬ graph.MetBefore bottom top := by
      rintro ⟨other, bottomMet, topNew⟩
      by_cases fileMet : file ∈ (graph.searchAt other).marks
      · exact down.not_metBefore ⟨other, fileMet, topNew⟩
      · exact onwards.not_metBefore ⟨other, bottomMet, fileMet⟩
    obtain ⟨inner, middle, outer, split⟩ :=
      above_of_not_metBefore different bottomOpen topOpen notBefore
    exact Nat.lt_asymm falls (searchDepth_lt_of_above split)
  · obtain ⟨cycle, reported, isRotated⟩ := exists_cycle_of_loop member
    refine ⟨cycle, reported, isRotated.mem_iff.mp ?_⟩
    have atEnd : loop ∈ (graph.searchAt graph.searchSteps).loops := member
    obtain ⟨moment, first, last, innermost, isOpen, closing, rfl⟩ := exists_closing_moment atEnd
    have well := wellMarked_searchAt graph moment
    obtain ⟨-, loopStarts, loopEnds⟩ := well.loopOf isOpen innermost closing
    cases Option.some.inj (loopStarts.symm.trans starts)
    cases Option.some.inj (loopEnds.symm.trans ends)
    have fileOpen := onwards.open_source (List.mem_of_mem_head? innermost)
    by_cases same : file = top
    · rw [same]
      exact List.mem_of_mem_head? starts
    · obtain ⟨inner, middle, outer, split⟩ :=
        above_of_not_metBefore same fileOpen isOpen down.not_metBefore
      rw [loopFrom_eq well.nodup split]
      simp

/-- The files that take part in a reported cycle. -/
theorem takesPart_iff : graph.TakesPart file ↔ graph.ClosesBehind file :=
  ⟨.of_takesPart, fun closesBehind => closesBehind.takesPart⟩

/-- A file of a reported cycle reaches itself. -/
theorem TakesPart.reaches_itself (takesPart : graph.TakesPart file) :
    TransGen graph.Imports file file := by
  obtain ⟨cycle, reported, member⟩ := takesPart
  exact (isImportCycle_of_loopOf (loopOf_of_mem_cycles reported)).reaches_itself member

/-- The files of the cycles are those that take part. -/
theorem mem_filesInCycles_iff : file ∈ filesInCycles graph.cycles ↔ graph.TakesPart file := by
  simp [filesInCycles, TakesPart, Std.ExtTreeSet.mem_ofList]

/-- The analysis of a file lists a cycle exactly if the file takes part in one. -/
theorem analyzeFile?_cycles_iff :
    (∃ analysis, graph.analyzeFile? file = some analysis ∧ analysis.cycles ≠ []) ↔
      graph.TakesPart file := by
  constructor
  · rintro ⟨analysis, found, someCycle⟩
    obtain ⟨node, -, rfl⟩ := Option.map_eq_some_iff.mp found
    obtain ⟨cycle, member⟩ := List.exists_mem_of_ne_nil _ someCycle
    obtain ⟨reported, takesPart⟩ := List.mem_filter.mp member
    exact ⟨cycle, reported, by simpa [Cycle.contains] using takesPart⟩
  · rintro ⟨cycle, reported, member⟩
    have contained := (isImportCycle_of_loopOf (loopOf_of_mem_cycles reported)).contains file member
    obtain ⟨node, found⟩ := Option.isSome_iff_exists.mp
      (Std.ExtTreeMap.mem_iff_isSome_getElem?.mp (contains_iff_mem.mp contained))
    refine ⟨_, congrArg _ found, List.ne_nil_of_mem (a := cycle) (List.mem_filter.mpr ?_)⟩
    exact ⟨reported, by simpa [Cycle.contains] using member⟩

/-- The three ways to ask whether a file takes part in a reported cycle agree, and only files that
reach themselves do. That all of those do holds of a file exactly when reaching itself implies
that it closes behind. -/
theorem participation_complete_iff (graph : ImportGraph) (file : String) :
    (file ∈ filesInCycles graph.cycles ↔ graph.TakesPart file) ∧
    ((∃ analysis, graph.analyzeFile? file = some analysis ∧ analysis.cycles ≠ []) ↔
      graph.TakesPart file) ∧
    ((graph.TakesPart file ↔ TransGen graph.Imports file file) ↔
      (TransGen graph.Imports file file → graph.ClosesBehind file)) := by
  refine ⟨mem_filesInCycles_iff, analyzeFile?_cycles_iff, ?_, ?_⟩
  · intro complete reaches
    exact takesPart_iff.mp (complete.mpr reaches)
  · intro closesBehind
    exact ⟨TakesPart.reaches_itself, fun reaches => takesPart_iff.mpr (closesBehind reaches)⟩

/-- A loop of two files with a detour through a third file that comes later. -/
def chordedLoop : ImportGraph := ofEdges [("a", "b"), ("a", "c"), ("b", "a"), ("c", "b")]

/-- The detour reaches itself, through the loop, and is in no reported cycle. -/
theorem participation_incomplete :
    ¬ ∀ (graph : ImportGraph) (file : String), graph.contains file = true →
      (graph.TakesPart file ↔ TransGen graph.Imports file file) := by
  intro complete
  have reaches : TransGen chordedLoop.Imports "c" "c" := by
    have out : chordedLoop.Imports "c" "b" := by decide
    have up : chordedLoop.Imports "b" "a" := by decide
    have back : chordedLoop.Imports "a" "c" := by decide
    exact ((TransGen.single out).tail up).tail back
  obtain ⟨cycle, reported, member⟩ := (complete chordedLoop "c" (by decide)).mpr reaches
  have only : chordedLoop.cycles = [⟨["a", "b"]⟩] := by decide
  rw [only, List.mem_singleton] at reported
  subst reported
  simp at member

end SourceAtlas.ImportGraph
