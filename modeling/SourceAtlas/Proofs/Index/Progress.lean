import SourceAtlas.Proofs.Index.Accounting

/-!
# The progress of a build

A build tells of its stages as it goes, and asks between them whether it was
cancelled. `Index.told` is a build in any course that this can take: with any
answers, and with the events of concurrent workers in any order. The events begin
with the scan, and unless the scan fails they end, once, with the completion or
the cancellation (`Terminated`). When the scan fails they just stop.
-/

namespace SourceAtlas

/-- Events that begin with the scan and come to an end, which is the last of them only. -/
structure Terminated (events : List ProgressEvent) : Prop where
  begins : events.head? = some { step := .scanning }
  ends : ∃ earlier last, events = earlier ++ [last] ∧ last.step.isFinal = true ∧
    ∀ event ∈ earlier, event.step.isFinal = false

/-- A stream of unfinished events ends with the final one behind it. -/
theorem terminated_append {more : List ProgressEvent} {last : ProgressEvent}
    (unfinished : ∀ event ∈ more, event.step.isFinal = false) (final : last.step.isFinal = true) :
    Terminated ({ step := .scanning } :: more ++ [last]) where
  begins := rfl
  ends := ⟨{ step := .scanning } :: more, last, rfl, final, List.forall_mem_cons.mpr
    ⟨rfl, unfinished⟩⟩

/-- Events without a final one come to no end. -/
theorem not_terminated_of_unfinished {events : List ProgressEvent}
    (unfinished : ∀ event ∈ events, event.step.isFinal = false) : ¬Terminated events := by
  rintro ⟨-, earlier, last, rfl, final, -⟩
  rw [unfinished last (by simp)] at final
  cases final

/-- The scan alone is no end. -/
theorem not_terminated_scanning : ¬Terminated [{ step := .scanning }] :=
  not_terminated_of_unfinished (by decide)

/-- The points at which a build asks whether it was cancelled. -/
inductive Checkpoint where
  | captured
  /-- All workers that parse have stopped. -/
  | parsed
  /-- Before the parsed file at a position is stored. -/
  | storing (position : Nat)
  /-- While so many batches of vectors have come. -/
  | embedding (batches : Nat)

/-- What the course of a build depends on beside its input, as long as the task that parses does not
fail as a whole (see `Visit.toldUntilFailure`). -/
structure Course where
  cancelled : Checkpoint → Bool
  /-- How many files are parsed when the workers are cancelled. -/
  parsed : Nat
  /-- The events of workers in the order and with the numbers that they come with. -/
  mixed : List ProgressEvent → List ProgressEvent
  steps : ∀ events, (mixed events).map ProgressEvent.step = events.map ProgressEvent.step

/-- The course of a build that was cancelled from the beginning or never is, and whose workers come
one after the other. -/
def Course.plain (cancelled : Bool) : Course where
  cancelled _ := cancelled
  parsed := 0
  mixed := id
  steps _ := rfl

/-! ## Work that tells of its progress -/

/-- Work that tells of its progress and can fail. What was told stays told. -/
abbrev Telling (α : Type) := EStateM IndexError (List ProgressEvent) α

namespace Telling

variable {α β : Type} {course : Course}

/-- Tell of something. -/
def tell (events : List ProgressEvent) : Telling Unit := modify (· ++ events)

/-- Go on unless cancelled. -/
def ask (cancelled : Bool) : Telling Unit := if cancelled then throw .cancelled else pure ()

/-- Take a result as it is. -/
def ofResult (result : Except IndexError α) : Telling α :=
  match result with
  | .ok value => pure value
  | .error error => throw error

/-- Parse so many files. Without files there is nothing to ask. -/
def parse (course : Course) (total : Nat) : Telling Unit :=
  if total = 0 then pure ()
  else if course.cancelled .parsed then do
    tell (course.mixed ((PassContext.parsingEvents total).take course.parsed))
    throw .cancelled
  else tell (course.mixed (PassContext.parsingEvents total))

/-- Store the parsed files from a position on. -/
def store (course : Course) : Nat → List ParsedFile → Telling Unit
  | _, [] => pure ()
  | position, _ :: rest => do
    ask (course.cancelled (.storing position))
    store course (position + 1) rest

/-- Wait for batches of vectors, of which some have come, and for the end of them. -/
def embedFrom (course : Course) : Nat → List ProgressEvent → Telling Unit
  | batches, [] => ask (course.cancelled (.embedding batches))
  | batches, event :: rest => do
    ask (course.cancelled (.embedding batches))
    tell [event]
    embedFrom course (batches + 1) rest

/-- Wait for batches of vectors, if there are any. -/
def embed (course : Course) (progress : List ProgressEvent) : Telling Unit :=
  if progress.isEmpty then pure () else embedFrom course 0 (course.mixed progress)

/-- Work that tells of no end, and that fails only when it is cancelled. -/
def Steady (work : Telling α) : Prop :=
  ∀ events, ∃ more, (∀ event ∈ more, event.step.isFinal = false) ∧
    ((∃ value, work.run events = .ok value (events ++ more)) ∨
      work.run events = .error .cancelled (events ++ more))

/-- A value tells nothing. -/
theorem steady_pure (value : α) : Steady (pure value) :=
  fun events => ⟨[], by simp, .inl ⟨value, by simp⟩⟩

/-- A cancellation tells nothing by itself. -/
theorem steady_cancelled : Steady (throw .cancelled : Telling α) :=
  fun events => ⟨[], by simp, .inr (by rw [List.append_nil]; rfl)⟩

/-- Telling unfinished events is steady. -/
theorem steady_tell {events : List ProgressEvent}
    (unfinished : ∀ event ∈ events, event.step.isFinal = false) : Steady (tell events) :=
  fun _ => ⟨events, unfinished, .inl ⟨(), rfl⟩⟩

/-- Steady work goes on steadily. -/
theorem Steady.bind {work : Telling α} {rest : α → Telling β} (steady : Steady work)
    (later : ∀ value, Steady (rest value)) : Steady (work >>= rest) := by
  intro events
  obtain ⟨first, unfinished, ⟨value, done⟩ | stopped⟩ := steady events
  · obtain ⟨second, unfinishedStill, outcome⟩ := later value (events ++ first)
    refine ⟨first ++ second, List.forall_mem_append.mpr ⟨unfinished, unfinishedStill⟩, ?_⟩
    have run : (work >>= rest).run events = (rest value).run (events ++ first) := by
      rw [EStateM.run_bind, done]
    rw [run, ← List.append_assoc]
    exact outcome
  · refine ⟨first, unfinished, .inr ?_⟩
    rw [EStateM.run_bind, stopped]

/-- Asking for a cancellation is steady. -/
theorem steady_ask (cancelled : Bool) : Steady (ask cancelled) := by
  cases cancelled with
  | true => exact steady_cancelled
  | false => exact steady_pure ()

/-- Workers tell of the steps they are at, in whatever order. -/
theorem unfinished_mixed {events : List ProgressEvent}
    (unfinished : ∀ event ∈ events, event.step.isFinal = false) :
    ∀ event ∈ course.mixed events, event.step.isFinal = false := by
  intro event member
  have listed : event.step ∈ (course.mixed events).map ProgressEvent.step :=
    List.mem_map_of_mem member
  rw [course.steps] at listed
  obtain ⟨other, told, same⟩ := List.mem_map.mp listed
  rw [← same]
  exact unfinished other told

/-- No event of the parsing finishes a stream. -/
theorem unfinished_parsingEvents (total : Nat) :
    ∀ event ∈ PassContext.parsingEvents total, event.step.isFinal = false := by
  intro event member
  obtain ⟨done, -, rfl⟩ := List.mem_map.mp member
  rfl

/-- The parsing is steady. -/
theorem steady_parse (course : Course) (total : Nat) : Steady (parse course total) := by
  have unfinished := unfinished_parsingEvents total
  rw [parse]
  split
  · exact steady_pure ()
  · split
    · refine (steady_tell (unfinished_mixed fun event member => ?_)).bind fun _ => steady_cancelled
      exact unfinished event (List.mem_of_mem_take member)
    · exact steady_tell (unfinished_mixed unfinished)

/-- Storing files is steady. -/
theorem steady_store (course : Course) (position : Nat) (files : List ParsedFile) :
    Steady (store course position files) := by
  induction files generalizing position with
  | nil => exact steady_pure ()
  | cons file rest inductionHypothesis =>
    exact (steady_ask _).bind fun _ => inductionHypothesis (position + 1)

/-- Embedding in batches is steady if its progress is. -/
theorem steady_embedFrom (course : Course) (batches : Nat) {progress : List ProgressEvent}
    (unfinished : ∀ event ∈ progress, event.step.isFinal = false) :
    Steady (embedFrom course batches progress) := by
  induction progress generalizing batches with
  | nil => exact steady_ask _
  | cons event rest inductionHypothesis =>
    obtain ⟨first, later⟩ := List.forall_mem_cons.mp unfinished
    exact (steady_ask _).bind fun _ =>
      (steady_tell (List.forall_mem_singleton.mpr first)).bind fun _ =>
        inductionHypothesis (batches + 1) later

/-- The embedding is steady if its progress is. -/
theorem steady_embed (course : Course) {progress : List ProgressEvent}
    (unfinished : ∀ event ∈ progress, event.step.isFinal = false) :
    Steady (embed course progress) := by
  rw [embed]
  split
  · exact steady_pure ()
  · exact steady_embedFrom course 0 (unfinished_mixed unfinished)

/-! ### The plain course -/

/-- Told events stand behind those told before. -/
theorem run_tell (more events : List ProgressEvent) :
    (tell more).run events = .ok () (events ++ more) := rfl

/-- Where nothing goes wrong, all events of the parsing are told. -/
theorem run_parse_plain (total : Nat) (events : List ProgressEvent) :
    (parse (.plain false) total).run events =
      .ok () (events ++ PassContext.parsingEvents total) := by
  rw [parse]
  split
  · next vacant =>
    subst vacant
    simp [PassContext.parsingEvents]
  · rfl

/-- Where nothing goes wrong, storing files tells nothing. -/
theorem run_store_plain (position : Nat) (files : List ParsedFile) (events : List ProgressEvent) :
    (store (.plain false) position files).run events = .ok () events := by
  induction files generalizing position with
  | nil => rfl
  | cons file rest inductionHypothesis => exact inductionHypothesis (position + 1)

/-- Where nothing goes wrong, all progress of the batches is told. -/
theorem run_embedFrom_plain (batches : Nat) (progress events : List ProgressEvent) :
    (embedFrom (.plain false) batches progress).run events = .ok () (events ++ progress) := by
  induction progress generalizing batches events with
  | nil => simp [embedFrom, ask, Course.plain]
  | cons event rest inductionHypothesis =>
    have later := inductionHypothesis (batches + 1) (events ++ [event])
    rw [List.append_assoc, List.singleton_append] at later
    exact later

/-- Where nothing goes wrong, all progress of the embedding is told. -/
theorem run_embed_plain (progress events : List ProgressEvent) :
    (embed (.plain false) progress).run events = .ok () (events ++ progress) := by
  cases progress with
  | nil => simp [embed]
  | cons event rest => exact run_embedFrom_plain 0 (event :: rest) events

end Telling

/-! ## A build -/

/-- What a request answers and what it told before. -/
structure Account where
  result : Except IndexError PassStats
  events : List ProgressEvent

/-- The event that tells of what was answered. Failures other than a cancellation have none, and
leave that of the scan. -/
def Account.lastEvent (account : Account) : ProgressEvent :=
  match account.result with
  | .ok stats => { step := .complete, current := stats.filesIndexed, total := stats.filesIndexed }
  | .error .cancelled => { step := .cancelled }
  | .error _ => { step := .scanning }

/-- After a failure that is no cancellation nothing follows the scan. -/
theorem Account.lastEvent_of_failed {error : IndexError} (failed : error ≠ .cancelled)
    (events : List ProgressEvent) :
    Account.lastEvent { result := .error error, events } = { step := .scanning } := by
  rw [lastEvent]
  split
  next answered => cases answered
  next cancelled => exact absurd (Except.error.inj cancelled) failed
  next => rfl

/-- The account of an outcome. -/
def PassOutcome.account {σ : Type} (outcome : PassOutcome σ) : Account where
  result := outcome.result
  events := outcome.events

/-- No progress of an embedding finishes a stream. -/
theorem PassContext.unfinished_progress {σ : Type} (context : PassContext σ) (base : IndexState)
    (changes : ChangeSet) (provider : σ) :
    ∀ event ∈ (context.embedded base changes provider).progress, event.step.isFinal = false := by
  intro event member
  rw [embedded, embedSymbols] at member
  split at member
  · cases member
  · obtain ⟨done, -, rfl⟩ := List.mem_map.mp member
    rfl

/-- Patterns that cannot be read fail a scan, but do not cancel it. -/
theorem Capture.ne_cancelled_of_overrides {patterns : List String} {error : IndexError}
    (unread : overrides patterns = .error error) : error ≠ .cancelled := by
  induction patterns with
  | nil => cases unread
  | cons pattern rest inductionHypothesis =>
    rw [overrides] at unread
    split at unread
    · cases later : overrides rest with
      | error other =>
        rw [later] at unread
        cases unread
        exact inductionHypothesis later
      | ok rules =>
        rw [later] at unread
        cases unread
    · cases unread
      rintro ⟨⟩

/-- A capture never fails by a cancellation. -/
theorem Snapshot.ne_cancelled_of_capture {files : FileSystem} {root : String}
    {options : CaptureOptions} {now : Int} {error : IndexError}
    (uncaptured : capture files root options now = .error error) : error ≠ .cancelled := by
  rw [capture] at uncaptured
  split at uncaptured
  · cases uncaptured
    rintro ⟨⟩
  · split at uncaptured
    · cases unread : Capture.overrides options.ignorePatterns with
      | error other =>
        rw [unread] at uncaptured
        cases uncaptured
        exact Capture.ne_cancelled_of_overrides unread
      | ok overrides =>
        rw [unread] at uncaptured
        cases uncaptured
    · cases uncaptured
      rintro ⟨⟩

namespace Visit

variable {σ : Type}

/-- The stages of a pass over a captured snapshot. -/
def stages (visit : Visit σ) (index : Index σ) (course : Course) (snapshot : Snapshot) :
    Telling (PassContext.Made σ) := do
  Telling.ask (course.cancelled .captured)
  if visit.isIncremental index && (visit.changes index snapshot).isEmpty then pure ()
  else
    let context := visit.context index
    let changes := visit.changes index snapshot
    Telling.parse course (context.toParse changes).length
    Telling.store course 0 (context.parsedFiles changes)
    Telling.tell [{ step := .finalizing }]
    Telling.embed course
      (context.embedded (visit.base index) changes visit.workspace.provider).progress
  return visit.made index snapshot

/-- The stages behind a capture are steady. -/
theorem steady_stages (visit : Visit σ) (index : Index σ) (course : Course) (snapshot : Snapshot) :
    Telling.Steady (visit.stages index course snapshot) := by
  rw [stages]
  refine (Telling.steady_ask _).bind fun _ => ?_
  split
  · exact (Telling.steady_pure ()).bind fun _ => Telling.steady_pure _
  · exact (Telling.steady_parse _ _).bind fun _ => (Telling.steady_store _ _ _).bind fun _ =>
      (Telling.steady_tell (by decide)).bind fun _ =>
        (Telling.steady_embed course (PassContext.unfinished_progress _ _ _ _)).bind fun _ =>
          Telling.steady_pure _

/-- What a build has told when its parse task fails as a whole, so that its workers stop after some
of the files. The build answers with that failure, which is no cancellation, and tells of no end. -/
def toldUntilFailure (visit : Visit σ) (index : Index σ) (course : Course) (snapshot : Snapshot) :
    List ProgressEvent :=
  let total := ((visit.context index).toParse (visit.changes index snapshot)).length
  { step := .scanning } :: course.mixed ((PassContext.parsingEvents total).take course.parsed)

/-- A parse task that fails leaves the events of its build without an end, as a scan that fails
does. -/
theorem toldUntilFailure_not_terminated (visit : Visit σ) (index : Index σ) (course : Course)
    (snapshot : Snapshot) : ¬Terminated (visit.toldUntilFailure index course snapshot) := by
  refine not_terminated_of_unfinished (List.forall_mem_cons.mpr ⟨rfl, ?_⟩)
  exact Telling.unfinished_mixed fun event member =>
    Telling.unfinished_parsingEvents _ event (List.mem_of_mem_take member)

/-- A pass that nothing stops tells of its events and makes what it makes. -/
theorem run_stages_plain (visit : Visit σ) (index : Index σ) (snapshot : Snapshot)
    (events : List ProgressEvent) :
    (visit.stages index (.plain false) snapshot).run events =
      .ok (visit.made index snapshot) (events ++ (visit.made index snapshot).events) := by
  have asked : (Telling.ask ((Course.plain false).cancelled .captured)).run events =
      .ok () events := rfl
  rw [stages, EStateM.run_bind, asked]
  dsimp only
  by_cases idle : (visit.isIncremental index && (visit.changes index snapshot).isEmpty) = true
  · have nothing : (visit.made index snapshot).events = [] :=
      congrArg PassContext.Made.events (if_pos idle)
    rw [if_pos idle, nothing, List.append_nil]
    rfl
  · have reworked : visit.made index snapshot =
        (visit.context index).rework (visit.base index) snapshot (visit.changes index snapshot)
          visit.workspace.provider := if_neg idle
    rw [if_neg idle, reworked, PassContext.rework_eq]
    simp only [EStateM.run_bind, Telling.run_parse_plain, Telling.run_store_plain,
      Telling.run_tell, Telling.run_embed_plain, EStateM.run_pure, List.append_assoc,
      List.singleton_append]

end Visit

namespace Index

variable {σ : Type}

/-- The work of a build: the scan, and the stages of the pass over what it captured. -/
def work (index : Index σ) (visit : Visit σ) (course : Course) : Telling (PassContext.Made σ) := do
  Telling.tell [{ step := .scanning }]
  let snapshot ← Telling.ofResult
    (Snapshot.capture visit.workspace.files index.root index.captureOptions visit.now)
  visit.stages index course snapshot

/-- A build in some course. What its work made is published, unless it failed, and an end is told
of. -/
def told (index : Index σ) (workspace : Workspace σ) (force : Bool) (now : Int) (course : Course) :
    Account :=
  let visit : Visit σ := { request := .build { force }, workspace, now }
  let running := index.announce (.indexing (visit.isIncremental index))
  match (index.work visit course).run [] with
  | .ok made events =>
    -- The events of the pass are told already.
    (running.finish workspace { made with events := [] } events).account
  | .error error events => (running.abandon index.phase workspace error events).account

variable {index : Index σ} {workspace : Workspace σ} {now : Int}

/-- Where the capture fails, only the scan is told. -/
theorem run_work_of_uncaptured (visit : Visit σ) {error : IndexError}
    (uncaptured : Snapshot.capture visit.workspace.files index.root index.captureOptions visit.now =
      .error error) (course : Course) :
    (index.work visit course).run [] = .error error [{ step := .scanning }] := by
  rw [work, uncaptured]
  rfl

/-- Where the capture succeeds, its stages follow the scan. -/
theorem run_work_of_captured (visit : Visit σ) {snapshot : Snapshot}
    (captured : Snapshot.capture visit.workspace.files index.root index.captureOptions visit.now =
      .ok snapshot) (course : Course) :
    (index.work visit course).run [] =
      (visit.stages index course snapshot).run [{ step := .scanning }] := by
  rw [work, captured]
  rfl

/-- A failed scan is all that is told of. -/
theorem told_of_uncaptured {error : IndexError}
    (uncaptured : Snapshot.capture workspace.files index.root index.captureOptions now =
      .error error)
    (force : Bool) (course : Course) :
    index.told workspace force now course =
      { result := .error error, events := [{ step := .scanning }] } := by
  let visit : Visit σ := { request := .build { force }, workspace, now }
  have run := run_work_of_uncaptured visit uncaptured course
  simp only [told]
  rw [run]
  simp only [abandon, PassOutcome.account, if_neg (Snapshot.ne_cancelled_of_capture uncaptured)]

/-- Once the tree is captured, the build completes or is cancelled, and tells of that at its end. -/
theorem told_of_captured {snapshot : Snapshot}
    (captured : Snapshot.capture workspace.files index.root index.captureOptions now = .ok snapshot)
    (force : Bool) (course : Course) :
    (index.told workspace force now course).lastEvent.step.isFinal = true ∧
      ∃ more, (∀ event ∈ more, event.step.isFinal = false) ∧
        (index.told workspace force now course).events =
          { step := .scanning } :: more ++ [(index.told workspace force now course).lastEvent] := by
  let visit : Visit σ := { request := .build { force }, workspace, now }
  have run := run_work_of_captured visit captured course
  obtain ⟨more, unfinished, ⟨made, done⟩ | stopped⟩ :=
    visit.steady_stages index course snapshot [{ step := .scanning }]
  · rw [done] at run
    simp only [told]
    rw [run]
    exact ⟨rfl, more, unfinished, by simp [finish, PassOutcome.account, Account.lastEvent]⟩
  · rw [stopped] at run
    simp only [told]
    rw [run]
    exact ⟨rfl, more, unfinished, by simp [abandon, PassOutcome.account, Account.lastEvent]⟩

/-- A build gives the account of a plain course. -/
theorem account_build (index : Index σ) (workspace : Workspace σ) (options : BuildOptions)
    (now : Int) : (index.build workspace options now).account =
      index.told workspace options.force now (.plain options.cancelled) := by
  obtain ⟨force, cancelled⟩ := options
  cases captured : Snapshot.capture workspace.files index.root index.captureOptions now with
  | error error =>
    rw [told_of_uncaptured captured]
    simp [build, captured, abandon, PassOutcome.account, Snapshot.ne_cancelled_of_capture captured]
  | ok snapshot =>
    let visit : Visit σ := { request := .build { force }, workspace, now }
    have run := run_work_of_captured visit captured (.plain cancelled)
    cases cancelled with
    | true =>
      have stopped : (index.work visit (.plain true)).run [] =
          .error .cancelled [{ step := .scanning }] := run
      simp only [told]
      rw [stopped]
      simp [build, captured, abandon, PassOutcome.account]
    | false =>
      rw [Visit.run_stages_plain] at run
      have takes : visit.Takes index snapshot := .capture rfl rfl captured
      have outcome : index.build workspace { force, cancelled := false } now = _ := takes.outcome_eq
      rw [outcome]
      simp only [told]
      rw [run]
      simp [finish, PassOutcome.account, Visit.firstEvents, visit]

/-- The events of a build come to their end exactly when the scan can capture the tree, and the last
of them says what the build answers. When the scan fails, it is all that is told of. -/
theorem told_terminated_iff (index : Index σ) (workspace : Workspace σ) (force : Bool) (now : Int)
    (course : Course) :
    (Terminated (index.told workspace force now course).events ↔
        ∃ snapshot, Snapshot.capture workspace.files index.root index.captureOptions now =
          .ok snapshot) ∧
      (index.told workspace force now course).events.getLast? =
        some (index.told workspace force now course).lastEvent ∧
      (∀ error, Snapshot.capture workspace.files index.root index.captureOptions now =
          .error error →
        index.told workspace force now course =
          { result := .error error, events := [{ step := .scanning }] }) ∧
      ∀ cancelled, (index.build workspace { force, cancelled } now).account =
        index.told workspace force now (.plain cancelled) := by
  have plain := fun cancelled => account_build index workspace { force, cancelled } now
  have uncaptured : ∀ error, _ = Except.error error → index.told workspace force now course = _ :=
    fun error failed => told_of_uncaptured failed force course
  cases captured : Snapshot.capture workspace.files index.root index.captureOptions now with
  | error error =>
    have told := uncaptured error captured
    have last := Account.lastEvent_of_failed (Snapshot.ne_cancelled_of_capture captured)
      [{ step := .scanning }]
    refine ⟨iff_of_false ?_ (by simp), ?_, captured ▸ uncaptured, plain⟩
    · rw [told]
      exact not_terminated_scanning
    · rw [told, last]
      rfl
  | ok snapshot =>
    obtain ⟨final, more, unfinished, events⟩ := told_of_captured captured force course
    refine ⟨iff_of_true ?_ ⟨snapshot, rfl⟩, ?_, captured ▸ uncaptured, plain⟩
    · rw [events]
      exact terminated_append unfinished final
    · rw [events]
      exact List.getLast?_concat

/-- An index with an ignore pattern that cannot be read. -/
def brokenIndex : Index Unit :=
  { wordIndex with
    settings :=
      { wordIndex.settings with
        indexer := { wordIndex.settings.indexer with ignorePatterns := ["src/["] } } }

/-- The build fails on its pattern, and its events stop without an end. -/
theorem brokenIndex_not_terminated :
    let outcome := brokenIndex.build { files := editedProject "f" 0, provider := () } {} 1
    outcome.result = .error (.invalidPattern "src/["
        "error parsing glob '!src/[': unclosed character class; missing ']'") ∧
      outcome.events = [{ step := .scanning }] ∧ ¬Terminated outcome.events := by
  intro outcome
  have events : outcome.events = [{ step := .scanning }] := by decide +kernel
  exact ⟨eq_error_of_errorOf? (by decide +kernel), events, events ▸ not_terminated_scanning⟩

end Index

end SourceAtlas
