import SourceAtlas.Proofs.Graph.Search

/-!
# The order in which the search meets files

The states of one search are numbered by the steps taken. Files are opened and
closed like nested brackets: a file that can be reached from another along files
not met before that one is closed no later (`ReachesLater.closed`).
-/

namespace SourceAtlas

open Relation

namespace ImportGraph

open SourceAtlas.Graph SourceAtlas.Graph.Traversal

variable {graph : ImportGraph} {source target file first second : String} {steps : Nat}

/-- One step more is a step after all the others, as long as there is one. -/
theorem advance_succ_eq {σ : Type} (step : σ → Option σ) (state : σ) (steps : Nat) :
    advance step (steps + 1) state =
      (step (advance step steps state)).getD (advance step steps state) := by
  induction steps generalizing state with
  | zero =>
    simp only [advance]
    cases step state <;> rfl
  | succ steps inductionHypothesis =>
    rw [advance]
    cases stepped : step state with
    | none =>
      have stays : advance step (steps + 1) state = state := by simp [advance, stepped]
      simp [stays, stepped]
    | some next =>
      have goes : advance step (steps + 1) state = advance step steps next := by
        simp [advance, stepped]
      simp only [goes]
      exact inductionHypothesis next

/-- The search makes a move, or it has come to its end. -/
theorem searchAt_succ (graph : ImportGraph) (steps : Nat) :
    Move graph (graph.searchAt steps) (graph.searchAt (steps + 1)) ∨
      (graph.searchAt (steps + 1) = graph.searchAt steps ∧
        (graph.searchAt steps).frames = []) := by
  have stepped : graph.searchAt (steps + 1) =
      (step graph (graph.searchAt steps)).getD (graph.searchAt steps) := advance_succ_eq ..
  cases found : step graph (graph.searchAt steps) with
  | none =>
    rw [found] at stepped
    exact .inr ⟨stepped, (step_eq_none_iff.mp found).1⟩
  | some next =>
    rw [found] at stepped
    exact .inl (stepped ▸ Move.of_step found)

/-- What a move keeps is kept from one moment of the search to any later one. -/
theorem searchAt_keeps (property : Traversal → Prop)
    (kept : ∀ {before after}, Move graph before after → WellMarked graph before →
      property before → property after)
    {later : Nat} (order : steps ≤ later) (holds : property (graph.searchAt steps)) :
    property (graph.searchAt later) := by
  induction order with
  | refl => exact holds
  | @step later _ inductionHypothesis =>
    rcases searchAt_succ graph later with moved | ⟨same, -⟩
    · exact kept moved (wellMarked_searchAt graph later) inductionHypothesis
    · exact same ▸ inductionHypothesis

/-- From the bound on its steps on, the search is the finished traversal. -/
theorem searchAt_eq_traversal (enough : graph.searchSteps ≤ steps) :
    graph.searchAt steps = graph.traversal := by
  have finished := traversal_finished graph
  induction enough with
  | refl => rfl
  | @step later _ inductionHypothesis =>
    have stopped : step graph (graph.searchAt later) = none := by
      rw [inductionHypothesis]
      exact step_eq_none_iff.mpr finished
    have stays : graph.searchAt (later + 1) = graph.searchAt later := by
      have stepped := advance_succ_eq (step graph) { roots := graph.files } later
      rw [searchAt, stepped]
      exact (congrArg (fun found => found.getD (graph.searchAt later)) stopped)
    rw [stays, inductionHypothesis]

/-- What a move keeps holds of the finished traversal if it held at some moment. -/
theorem traversal_keeps (property : Traversal → Prop)
    (kept : ∀ {before after}, Move graph before after → WellMarked graph before →
      property before → property after)
    (holds : property (graph.searchAt steps)) : property graph.traversal := by
  have later := searchAt_keeps property kept
    (Nat.le_add_left steps graph.searchSteps) holds
  rwa [searchAt_eq_traversal (Nat.le_add_right ..)] at later

/-! ## Met before -/

/-- At some moment of the search, `first` has been met and `second` has not. -/
def MetBefore (graph : ImportGraph) (first second : String) : Prop :=
  ∃ steps, first ∈ (graph.searchAt steps).marks ∧ second ∉ (graph.searchAt steps).marks

/-- A file that has been met stays met. -/
theorem mem_marks_later {later : Nat} (order : steps ≤ later)
    (known : file ∈ (graph.searchAt steps).marks) : file ∈ (graph.searchAt later).marks :=
  searchAt_keeps (file ∈ ·.marks) (fun moved _ known => moved.mark_stays known) order known

/-- Of two files only one is met first. -/
theorem MetBefore.asymm (before : graph.MetBefore first second) :
    ¬ graph.MetBefore second first := by
  obtain ⟨moment, firstKnown, secondNew⟩ := before
  rintro ⟨other, secondKnown, firstNew⟩
  rcases Nat.le_total moment other with order | order
  · exact firstNew (mem_marks_later order firstKnown)
  · exact secondNew (mem_marks_later order secondKnown)

/-- No file is met before itself. -/
theorem MetBefore.irrefl (file : String) : ¬ graph.MetBefore file file :=
  fun before => before.asymm before

/-- The open path runs in the order in which its files were met. -/
theorem openFiles_pairwise (graph : ImportGraph) (steps : Nat) :
    (graph.searchAt steps).openFiles.Pairwise fun inner outer => graph.MetBefore outer inner := by
  induction steps with
  | zero => exact .nil
  | succ steps inductionHypothesis =>
    rcases searchAt_succ graph steps with moved | ⟨same, -⟩
    · have well := wellMarked_searchAt graph steps
      have moment : ∀ {outer inner}, outer ∈ (graph.searchAt steps).marks →
          inner ∉ (graph.searchAt steps).marks → graph.MetBefore outer inner :=
        fun known new => ⟨steps, known, new⟩
      generalize graph.searchAt steps = state at *
      generalize graph.searchAt (steps + 1) = next at *
      cases moved with
      | pass => exact inductionHypothesis
      | start => exact List.pairwise_singleton ..
      | loop => exact inductionHypothesis
      | count => exact inductionHypothesis
      | close =>
        simp only [openFiles, map_file_deepen]
        exact (List.pairwise_cons.mp inductionHypothesis).2
      | descend fresh =>
        refine List.pairwise_cons.mpr ⟨fun outer isOpen => ?_, inductionHypothesis⟩
        exact moment (well.mem_marks isOpen) fresh
    · exact same ▸ inductionHypothesis

/-! ## Open and closed -/

/-- The search is done with the file. -/
def Closed (state : Traversal) (file : String) : Prop :=
  ∃ depth, state.marks[file]? = some (.known depth)

/-- A closed file has been met. -/
theorem Closed.mem_marks {state : Traversal} (closed : Closed state file) : file ∈ state.marks :=
  mem_marks_of_getElem? closed.choose_spec

/-- A file that has been met is closed or open. -/
theorem closed_or_open {state : Traversal} (well : WellMarked graph state)
    (known : file ∈ state.marks) : Closed state file ∨ file ∈ state.openFiles := by
  obtain ⟨mark, found⟩ := Option.isSome_iff_exists.mp
    (Std.ExtTreeMap.mem_iff_isSome_getElem?.mp known)
  cases mark with
  | inProgress => exact .inr ((well.visiting_iff file).mp found)
  | known depth => exact .inl ⟨depth, found⟩

/-- No closed file is open. -/
theorem not_open_of_closed {state : Traversal} (well : WellMarked graph state)
    (closed : Closed state file) : file ∉ state.openFiles := by
  intro isOpen
  obtain ⟨depth, found⟩ := closed
  rw [(well.visiting_iff file).mpr isOpen] at found
  cases found

/-- What a move can close: the innermost file. -/
theorem closed_before_move {before after : Traversal} (moved : Move graph before after)
    (closed : Closed after file) :
    Closed before file ∨ before.openFiles = file :: after.openFiles := by
  obtain ⟨depth, found⟩ := closed
  cases moved with
  | pass => exact .inl ⟨depth, found⟩
  | loop => exact .inl ⟨depth, found⟩
  | count => exact .inl ⟨depth, found⟩
  | @start root =>
    rw [Std.ExtTreeMap.getElem?_insert] at found
    split at found
    · cases found
    · exact .inl ⟨depth, found⟩
  | @descend _ _ target =>
    rw [Std.ExtTreeMap.getElem?_insert] at found
    split at found
    · cases found
    · exact .inl ⟨depth, found⟩
  | @close _ top =>
    rw [Std.ExtTreeMap.getElem?_insert] at found
    split at found
    · next same =>
      cases Std.LawfulEqCmp.eq_of_compare same
      right
      simp only [openFiles, map_file_deepen, List.map_cons]
    · exact .inl ⟨depth, found⟩

/-- What a move can open: a file met for the first time, and then nothing is closed. -/
theorem open_before_move {before after : Traversal} (moved : Move graph before after)
    (isOpen : file ∈ after.openFiles) :
    file ∈ before.openFiles ∨
      (file ∉ before.marks ∧ ∀ other, Closed after other → Closed before other) := by
  have unclosed : before.openFiles.length ≤ after.openFiles.length →
      ∀ other, Closed after other → Closed before other := by
    intro longer other closed
    refine (closed_before_move moved closed).resolve_right fun shorter => ?_
    rw [shorter, List.length_cons] at longer
    omega
  cases moved with
  | pass => exact .inl isOpen
  | loop => exact .inl isOpen
  | count => exact .inl isOpen
  | close =>
    simp only [openFiles, map_file_deepen] at isOpen
    exact .inl (.tail _ isOpen)
  | start fresh =>
    cases isOpen with
    | head => exact .inr ⟨fresh, unclosed (by simp [openFiles])⟩
    | tail _ isOpen => cases isOpen
  | descend fresh =>
    cases isOpen with
    | head => exact .inr ⟨fresh, unclosed (by simp [openFiles])⟩
    | tail _ isOpen => exact .inl isOpen

/-- A file that a move has met is open after it. -/
theorem mem_marks_before_move {before after : Traversal} (moved : Move graph before after)
    (well : WellMarked graph before) (known : file ∈ after.marks) :
    file ∈ before.marks ∨ file ∈ after.openFiles := by
  cases moved with
  | pass => exact .inl known
  | loop => exact .inl known
  | count => exact .inl known
  | start =>
    rcases Std.ExtTreeMap.mem_insert.mp known with same | known
    · exact .inr (Std.LawfulEqCmp.eq_of_compare same ▸ .head _)
    · exact .inl known
  | descend =>
    rcases Std.ExtTreeMap.mem_insert.mp known with same | known
    · exact .inr (Std.LawfulEqCmp.eq_of_compare same ▸ .head _)
    · exact .inl known
  | close =>
    rcases Std.ExtTreeMap.mem_insert.mp known with same | known
    · exact .inl (Std.LawfulEqCmp.eq_of_compare same ▸ well.mem_marks (.head _))
    · exact .inl known

/-- A file that has been met was open at some moment. -/
theorem exists_open_of_mem_marks (known : file ∈ (graph.searchAt steps).marks) :
    ∃ moment, file ∈ (graph.searchAt moment).openFiles := by
  induction steps with
  | zero => simp [searchAt, advance] at known
  | succ steps inductionHypothesis =>
    rcases searchAt_succ graph steps with moved | ⟨same, -⟩
    · have well := wellMarked_searchAt graph steps
      rcases mem_marks_before_move moved well known with known | isOpen
      · exact inductionHypothesis known
      · exact ⟨_, isOpen⟩
    · exact inductionHypothesis (same ▸ known)

/-- A file that is open while another is closed was met before that one was met, or after it was
closed. -/
theorem met_before_or_after_closing (closed : Closed (graph.searchAt steps) source)
    (isOpen : target ∈ (graph.searchAt steps).openFiles) :
    graph.MetBefore target source ∨
      ∃ moment, Closed (graph.searchAt moment) source ∧
        target ∉ (graph.searchAt moment).marks := by
  induction steps with
  | zero => cases isOpen
  | succ steps inductionHypothesis =>
    rcases searchAt_succ graph steps with moved | ⟨same, -⟩
    · rcases open_before_move moved isOpen with wasOpen | ⟨fresh, unclosed⟩
      · rcases closed_before_move moved closed with wasClosed | innermost
        · exact inductionHypothesis wasClosed wasOpen
        · -- The file is closed by this move, so what stays open lies above it on the path.
          have ordered := openFiles_pairwise graph steps
          rw [innermost] at ordered
          exact .inl ((List.pairwise_cons.mp ordered).1 target isOpen)
      · exact .inr ⟨steps, unclosed source closed, fresh⟩
    · rw [same] at closed isOpen
      exact inductionHypothesis closed isOpen

/-! ## Reaching along files not met before -/

/-- `target` can be reached from `source` along files that were not met before `source`. -/
def ReachesLater (graph : ImportGraph) (source target : String) : Prop :=
  ReflTransGen (fun file next => graph.Imports file next ∧ ¬ graph.MetBefore next source)
    source target

/-- What is reached along later files is not met before their start. -/
theorem ReachesLater.not_metBefore (reaches : graph.ReachesLater source target) :
    ¬ graph.MetBefore target source := by
  rcases reaches.cases_tail with same | ⟨_, _, last⟩
  · exact same ▸ MetBefore.irrefl _
  · exact last.2

/-- When a file is closed, all its imports have been met. -/
theorem mem_marks_of_closed (closed : Closed (graph.searchAt steps) source)
    (edge : graph.Imports source target) : target ∈ (graph.searchAt steps).marks := by
  have well := wellMarked_searchAt graph steps
  have accounted := accounted_searchAt graph steps
  rcases accounted.imports source closed.mem_marks target edge with
    ⟨frame, member, sameFile, -⟩ | below | ⟨loop, member, starts, ends⟩
  · exact absurd (sameFile ▸ List.mem_map_of_mem member) (not_open_of_closed well closed)
  · exact (below.mem_marks well).2
  · have chain := (accounted.loops loop member).chain
    match loop with
    | [] => cases starts
    | [only] =>
      cases starts
      cases ends
      exact closed.mem_marks
    | first :: second :: rest =>
      cases starts
      exact ((List.isChain_cons_cons.mp chain).1.2.mem_marks well).1

/-- What is reached along files not met before is closed no later. -/
theorem ReachesLater.closed (reaches : graph.ReachesLater source target)
    (sourceClosed : Closed (graph.searchAt steps) source) :
    Closed (graph.searchAt steps) target := by
  induction reaches generalizing steps with
  | refl => exact sourceClosed
  | @tail file target walk edge inductionHypothesis =>
    have met := mem_marks_of_closed (inductionHypothesis sourceClosed) edge.1
    rcases closed_or_open (wellMarked_searchAt graph steps) met with closed | isOpen
    · exact closed
    · rcases met_before_or_after_closing sourceClosed isOpen with before | ⟨moment, closed, new⟩
      · exact absurd before edge.2
      · exact absurd (mem_marks_of_closed (inductionHypothesis closed) edge.1) new

end ImportGraph

end SourceAtlas
