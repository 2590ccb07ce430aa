import SourceAtlas.Proofs.Embedding.Flight

/-!
# What comes back from a flight of batches

However the steps of the batches mix, every job comes back once, no question
has more texts than a batch may have, and the figures of progress rise from
batch to batch up to the number of jobs. `embedAll` is one of these runs.
-/

namespace SourceAtlas

/-- The number of jobs of a batch under way, settled or not. -/
def Sent.jobs : Sent → Nat
  | .whole batch => batch.length
  | .apart settled rest => settled.size + rest.length

/-- A batch under way has jobs, and no more than the limit while it is sent as a whole. -/
def Sent.Fits (limit : Nat) : Sent → Prop
  | .whole batch => batch ≠ [] ∧ batch.length ≤ limit
  | .apart settled rest => 0 < settled.size + rest.length

namespace Provider

variable {σ : Type} {provider : Provider σ} {limit : Nat} {sent later : Sent} {state next : σ}
  {texts : List String}

/-- A request stays within the limit, and so does what its batch asks for next. -/
theorem fits_ask (positive : 0 < limit) (fits : sent.Fits limit)
    (asked : provider.ask sent state = some (texts, later, next)) :
    later.Fits limit ∧ texts.length ≤ limit := by
  obtain ⟨batch, rfl, rfl, rfl | ⟨vectors, -, same, rfl⟩⟩ | ⟨settled, job, rest, rfl, rfl, rfl⟩ :=
    ask_cases asked
  · obtain ⟨occupied, within⟩ := fits
    have some := List.length_pos_iff.mpr occupied
    simpa [Sent.Fits, BatchOutcome.size, some] using within
  · obtain ⟨occupied, within⟩ := fits
    have some := List.length_pos_iff.mpr occupied
    simpa [Sent.Fits, BatchOutcome.size, same, some] using within
  · refine ⟨?_, positive⟩
    rw [Sent.Fits, BatchOutcome.size_append, size_embedEach_one]
    omega

end Provider

namespace Flight

variable {σ : Type} {provider : Provider σ} {bound limit batches : Nat} {flight next start : Flight σ}

/-- No batch and no question is larger than the limit, and the progress rises to the number of jobs
that came back. -/
structure Orderly (limit batches : Nat) (flight : Flight σ) : Prop where
  waiting : ∀ batch ∈ flight.waiting, batch ≠ [] ∧ batch.length ≤ limit
  sent : ∀ batch ∈ flight.sent, batch.Fits limit
  calls : ∀ texts ∈ flight.calls, texts.length ≤ limit
  counted : flight.progress.length + flight.sent.length + flight.waiting.length = batches
  rising : flight.progress.Pairwise (· < ·)
  below : ∀ done ∈ flight.progress, done ≤ flight.outcome.size
  last : flight.progress.getLast?.getD 0 = flight.outcome.size

/-- A move keeps the batches in flight within their limit and their count. -/
theorem Orderly.step (orderly : flight.Orderly limit batches) (positive : 0 < limit)
    (step : Step provider bound flight next) : next.Orderly limit batches := by
  obtain ⟨waiting, sent, calls, counted, rising, below, last⟩ := orderly
  cases step with
  | @send batch rest waits room =>
    rw [waits] at waiting counted
    obtain ⟨first, others⟩ := List.forall_mem_cons.mp waiting
    have sent' : ∀ other ∈ flight.sent ++ [.whole batch], other.Fits limit :=
      List.forall_mem_append.mpr ⟨sent, List.forall_mem_singleton.mpr first⟩
    refine ⟨others, sent', calls, ?_, rising, below, last⟩
    simp only [List.length_append, List.length_cons, List.length_nil] at counted ⊢
    omega
  | @ask before after batch texts later state held asked =>
    rw [held] at sent counted
    obtain ⟨left, sent⟩ := List.forall_mem_append.mp sent
    obtain ⟨batchFits, right⟩ := List.forall_mem_cons.mp sent
    obtain ⟨laterFits, few⟩ := Provider.fits_ask positive batchFits asked
    have sent' : ∀ other ∈ before ++ later :: after, other.Fits limit :=
      List.forall_mem_append.mpr ⟨left, List.forall_mem_cons.mpr ⟨laterFits, right⟩⟩
    have calls' : ∀ other ∈ flight.calls ++ [texts], other.length ≤ limit :=
      List.forall_mem_append.mpr ⟨calls, List.forall_mem_singleton.mpr few⟩
    refine ⟨waiting, sent', calls', ?_, rising, below, last⟩
    simpa using counted
  | @comeBack before after outcome held =>
    rw [held] at sent counted
    obtain ⟨left, sent⟩ := List.forall_mem_append.mp sent
    obtain ⟨some, right⟩ := List.forall_mem_cons.mp sent
    have sent' : ∀ other ∈ before ++ after, other.Fits limit :=
      List.forall_mem_append.mpr ⟨left, right⟩
    have more : flight.outcome.size < (flight.outcome.append outcome).size := by
      rw [BatchOutcome.size_append]
      exact Nat.lt_add_of_pos_right some
    refine ⟨waiting, sent', calls, ?_, ?_, ?_, ?_⟩
    · simp only [List.length_append, List.length_cons, List.length_nil] at counted ⊢
      omega
    · refine List.pairwise_append.mpr ⟨rising, List.pairwise_singleton _ _, ?_⟩
      exact fun done member other same =>
        List.mem_singleton.mp same ▸ Nat.lt_of_le_of_lt (below done member) more
    · exact List.forall_mem_append.mpr
        ⟨fun done member => Nat.le_of_lt (Nat.lt_of_le_of_lt (below done member) more),
          List.forall_mem_singleton.mpr (Nat.le_refl _)⟩
    · simp

/-- Every run of moves keeps the batches within their limit and their count. -/
theorem Orderly.reached (orderly : start.Orderly limit batches) (positive : 0 < limit)
    (reached : Relation.ReflTransGen (Step provider bound) start flight) :
    flight.Orderly limit batches := by
  induction reached with
  | refl => exact orderly
  | tail _ step inductionHypothesis => exact inductionHypothesis.step positive step

/-- At the start every batch is a chunk within the limit. -/
theorem orderly_init (positive : 0 < limit) (jobs : List EmbeddingJob) (state : σ) :
    (init (Provider.chunks limit jobs) state).Orderly limit (Provider.chunks limit jobs).length where
  waiting _ member := Provider.mem_chunks positive member
  sent := by simp [init]
  calls := by simp [init]
  counted := by simp [init]
  rising := .nil
  below := by simp [init]
  last := rfl

/-! ## One batch after the other -/

/-- Asking one by one asks for the first job and then for the rest. -/
theorem embedEach_cons (provider : Provider σ) (job : EmbeddingJob) (rest : List EmbeddingJob)
    (state : σ) :
    provider.embedEach (job :: rest) state =
      ((provider.embedEach [job] state).1.append
          (provider.embedEach rest (provider.embedEach [job] state).2).1,
        (provider.embedEach rest (provider.embedEach [job] state).2).2) := by
  simp only [Provider.embedEach, BatchOutcome.append_empty]

section

variable (provider : Provider σ) (bound : Nat) (waiting : List (List EmbeddingJob))
  (outcome : BatchOutcome) (progress : List Nat)

/-- A batch that is sent job by job is settled as by itself. -/
theorem reaches_embedEach (jobs : List EmbeddingJob) (settled : BatchOutcome)
    (calls : List (List String)) (state : σ) :
    ∃ calls', Relation.ReflTransGen (Step provider bound)
      ⟨waiting, [.apart settled jobs], outcome, progress, calls, state⟩
      ⟨waiting, [.apart (settled.append (provider.embedEach jobs state).1) []], outcome, progress,
        calls', (provider.embedEach jobs state).2⟩ := by
  induction jobs generalizing settled calls state with
  | nil =>
    rw [Provider.embedEach, BatchOutcome.append_empty]
    exact ⟨calls, .refl⟩
  | cons job rest inductionHypothesis =>
    obtain ⟨calls', others⟩ := inductionHypothesis
      (settled.append (provider.embedEach [job] state).1) (calls ++ [[job.text]])
      (provider.embedEach [job] state).2
    rw [embedEach_cons, ← BatchOutcome.append_assoc]
    exact ⟨calls', .head (.ask [] [] rfl rfl) others⟩

/-- A batch that was sent is settled as by itself. -/
theorem reaches_embedBatch (batch : List EmbeddingJob) (calls : List (List String)) (state : σ) :
    ∃ calls', Relation.ReflTransGen (Step provider bound)
      ⟨waiting, [.whole batch], outcome, progress, calls, state⟩
      ⟨waiting, [.apart (provider.embedBatch batch state).1 []], outcome, progress, calls',
        (provider.embedBatch batch state).2⟩ := by
  have oneByOne {after : σ} (asked : provider.ask (.whole batch) state =
      some (batch.map EmbeddingJob.text, .apart {} batch, after)) :
      ∃ calls', Relation.ReflTransGen (Step provider bound)
        ⟨waiting, [.whole batch], outcome, progress, calls, state⟩
        ⟨waiting, [.apart (provider.embedEach batch after).1 []], outcome, progress, calls',
          (provider.embedEach batch after).2⟩ := by
    obtain ⟨calls', others⟩ := reaches_embedEach provider bound waiting outcome progress batch {}
      (calls ++ [batch.map EmbeddingJob.text]) after
    exact ⟨calls', .head (.ask [] [] rfl asked) others⟩
  rw [Provider.embedBatch]
  split
  next vectors after answered =>
    split
    next fits =>
      have asked : provider.ask (.whole batch) state =
          some (batch.map EmbeddingJob.text,
            .apart { vectors := (batch.map EmbeddingJob.symbolId).zip vectors } [], after) := by
        simp [Provider.ask, answered, fits]
      exact ⟨_, .single (.ask [] [] rfl asked)⟩
    next unfit => exact oneByOne (by simp [Provider.ask, answered, unfit])
  next failure after answered => exact oneByOne (by simp [Provider.ask, answered])

/-- Batches that are sent one after the other come back as from `embedBatches`. -/
theorem reaches_embedBatches (batches : List (List EmbeddingJob)) (outcome : BatchOutcome)
    (progress : List Nat) (calls : List (List String)) (state : σ) :
    ∃ calls', Relation.ReflTransGen (Step provider bound)
      ⟨batches, [], outcome, progress, calls, state⟩
      ⟨[], [], outcome.append (provider.embedBatches outcome.size batches state).1,
        progress ++ (provider.embedBatches outcome.size batches state).2.1, calls',
        (provider.embedBatches outcome.size batches state).2.2⟩ := by
  induction batches generalizing outcome progress calls state with
  | nil =>
    rw [Provider.embedBatches, BatchOutcome.append_empty, List.append_nil]
    exact ⟨calls, .refl⟩
  | cons batch rest inductionHypothesis =>
    have room : ([] : List Sent).length < max 1 bound :=
      Nat.lt_of_lt_of_le Nat.zero_lt_one (le_max_left ..)
    obtain ⟨settledCalls, settled⟩ :=
      reaches_embedBatch provider bound rest outcome progress batch calls state
    obtain ⟨calls', others⟩ := inductionHypothesis
      (outcome.append (provider.embedBatch batch state).1)
      (progress ++ [(outcome.append (provider.embedBatch batch state).1).size]) settledCalls
      (provider.embedBatch batch state).2
    have back : Relation.ReflTransGen (Step provider bound)
        ⟨rest, [.apart (provider.embedBatch batch state).1 []], outcome, progress, settledCalls,
          (provider.embedBatch batch state).2⟩ _ := .head (.comeBack [] [] rfl) others
    rw [BatchOutcome.size_append, BatchOutcome.append_assoc, List.append_assoc] at back
    exact ⟨calls', .head (.send rfl room) (settled.trans back)⟩

end

/-- Embedding all jobs is a flight that lands. -/
theorem reaches_embedAll (provider : Provider σ) (bound wanted : Nat) (jobs : List EmbeddingJob)
    (state : σ) :
    ∃ calls, Relation.ReflTransGen (Step provider bound)
      (init (Provider.chunks (provider.batchSize wanted) jobs) state)
      ⟨[], [], (provider.embedAll wanted jobs state).1, (provider.embedAll wanted jobs state).2.1,
        calls, (provider.embedAll wanted jobs state).2.2⟩ := by
  obtain ⟨calls, lands⟩ := reaches_embedBatches provider bound
    (Provider.chunks (provider.batchSize wanted) jobs) {} [] [] state
  rw [BatchOutcome.empty_append] at lands
  exact ⟨calls, lands⟩

/-! ## Every run -/

/-- A flight goes on until it has landed; no question so far was larger than the limit, and the
progress rises. -/
structure OnCourse (provider : Provider σ) (bound limit : Nat) (flight : Flight σ) : Prop where
  goesOn : flight.Landed ∨ ∃ next, Step provider bound flight next
  calls : ∀ texts ∈ flight.calls, texts.length ≤ limit
  rising : flight.progress.Pairwise (· < ·)

/-- All jobs have come back, each once, in so many batches. -/
structure Complete (provider : Provider σ) (jobs : List EmbeddingJob) (batches : Nat)
    (flight : Flight σ) : Prop where
  once : (flight.outcome.vectors.map Prod.fst ++ flight.outcome.failed).Perm
    (jobs.map EmbeddingJob.symbolId)
  distinct : (flight.outcome.vectors.map Prod.fst ++ flight.outcome.failed).Nodup
  counted : flight.progress.length = batches
  ends : flight.progress.getLast? = some jobs.length
  vectors : ∀ embedding bad, provider.EmbedsEach embedding bad →
    flight.outcome.vectors.Perm ((jobs.filter fun job => !bad job.text).map fun job =>
      (job.symbolId, embedding job.text))
  failed : ∀ embedding bad, provider.EmbedsEach embedding bad →
    flight.outcome.failed.Perm ((jobs.filter fun job => bad job.text).map EmbeddingJob.symbolId)

/-- The vectors due for a list of jobs are those of the accepted texts, in order. -/
theorem flatMap_due_vectors (embedding : String → Embedding) (bad : String → Bool)
    (jobs : List EmbeddingJob) :
    jobs.flatMap (Tally.vectors embedding bad).due =
      (jobs.filter fun job => !bad job.text).map fun job => (job.symbolId, embedding job.text) := by
  induction jobs with
  | nil => rfl
  | cons job rest inductionHypothesis =>
    rw [List.flatMap_cons, inductionHypothesis]
    cases isBad : bad job.text <;> simp [Tally.vectors, isBad]

/-- The failures due for a list of jobs are the refused texts, in order. -/
theorem flatMap_due_failed (bad : String → Bool) (jobs : List EmbeddingJob) :
    jobs.flatMap (Tally.failed bad).due =
      (jobs.filter fun job => bad job.text).map EmbeddingJob.symbolId := by
  induction jobs with
  | nil => rfl
  | cons job rest inductionHypothesis =>
    rw [List.flatMap_cons, inductionHypothesis]
    cases isBad : bad job.text <;> simp [Tally.failed, isBad]

/-- A flight that has landed accounts for every job it was started with. -/
theorem complete_of_landed {wanted : Nat} {jobs : List EmbeddingJob} {state : σ}
    (occupied : jobs ≠ []) (distinct : (jobs.map EmbeddingJob.symbolId).Nodup)
    (reached : Relation.ReflTransGen (Step provider bound)
      (init (Provider.chunks (provider.batchSize wanted) jobs) state) flight)
    (landed : flight.Landed) :
    flight.Complete provider jobs (Provider.chunks (provider.batchSize wanted) jobs).length := by
  have positive := provider.batchSize_pos wanted
  have flat := Provider.flatten_chunks positive jobs
  have orderly := (orderly_init positive jobs state).reached positive reached
  have once := (Tally.keptBy_ids provider).perm_of_landed reached landed
  rw [flat, Tally.ids, ← List.map_eq_flatMap] at once
  have size : flight.outcome.size = jobs.length := by
    simpa [BatchOutcome.size] using once.length_eq
  have counted := orderly.counted
  rw [landed.1, landed.2] at counted
  have ends : flight.progress.getLast? = some jobs.length := by
    have last := orderly.last
    rw [size] at last
    cases final : flight.progress.getLast? with
    | none =>
      rw [final] at last
      exact absurd (List.eq_nil_of_length_eq_zero last.symm) occupied
    | some done =>
      rw [final] at last
      exact congrArg some last
  exact
    { once
      distinct := once.nodup_iff.mpr distinct
      counted
      ends
      vectors := fun embedding bad embeds => by
        have perm := embeds.keeps_vectors.perm_of_landed reached landed
        rwa [flat, flatMap_due_vectors] at perm
      failed := fun embedding bad embeds => by
        have perm := embeds.keeps_failed.perm_of_landed reached landed
        rwa [flat, flatMap_due_failed] at perm }

/-- Batches may come back in any order: every flight of jobs lands, no question is larger than a
batch may be, and what came back is complete. Embedding the jobs batch after batch is one such
flight. -/
theorem every_flight_complete (provider : Provider σ) (wanted bound : Nat) {jobs : List EmbeddingJob}
    (occupied : jobs ≠ []) (distinct : (jobs.map EmbeddingJob.symbolId).Nodup) (state : σ) :
    (WellFounded fun next flight => Step provider bound flight next) ∧
      (∀ flight, Relation.ReflTransGen (Step provider bound)
          (init (Provider.chunks (provider.batchSize wanted) jobs) state) flight →
        flight.OnCourse provider bound (max 1 (min wanted provider.maxBatch)) ∧
          (flight.Landed → flight.Complete provider jobs
            (Provider.chunks (provider.batchSize wanted) jobs).length)) ∧
      ∃ calls, Relation.ReflTransGen (Step provider bound)
        (init (Provider.chunks (provider.batchSize wanted) jobs) state)
        ⟨[], [], (provider.embedAll wanted jobs state).1, (provider.embedAll wanted jobs state).2.1,
          calls, (provider.embedAll wanted jobs state).2.2⟩ := by
  refine ⟨wellFounded_step provider bound, fun flight reached => ⟨?_, ?_⟩,
    reaches_embedAll provider bound wanted jobs state⟩
  · have positive := provider.batchSize_pos wanted
    have orderly := (orderly_init positive jobs state).reached positive reached
    rw [← provider.batchSize_eq]
    exact ⟨landed_or_step provider bound flight, orderly.calls, orderly.rising⟩
  · exact complete_of_landed occupied distinct reached

/-! ## Two batches that come back the other way round -/

/-- A provider of two texts at once that refuses a bad text. -/
def pickyProvider : Provider Unit where
  dimension := 1
  maxBatch := 2
  embed texts state :=
    if "bad" ∈ texts then (.error { reason := "bad text" }, state)
    else (.ok (texts.map fun text => [if text = "a" then 0.0 else 1.0]), state)
  embedQuery _ state := (.ok [], state)
  health state := (.healthy, state)

/-- The provider of the example embeds each text by itself. -/
theorem pickyProvider_embedsEach :
    pickyProvider.EmbedsEach (fun text => [if text = "a" then 0.0 else 1.0])
      (fun text => decide (text = "bad")) where
  good texts state good := by
    have none : "bad" ∉ texts := fun member => absurd (good "bad" member) (by decide)
    simp [pickyProvider, none]
  refuses texts state vectors isBad answered := by
    obtain ⟨text, member, same⟩ := isBad
    obtain rfl := of_decide_eq_true same
    simp [pickyProvider, member] at answered

/-- Three jobs, one of them bad. -/
def pickyJobs : List EmbeddingJob := [⟨"1", "a"⟩, ⟨"2", "bad"⟩, ⟨"3", "c"⟩]

/-- The second batch comes back while the first one has not been answered; that one is refused and
sent job by job. -/
def pickyLanded : Flight Unit where
  waiting := []
  sent := []
  outcome := { vectors := [("3", [1.0]), ("1", [0.0])], failed := ["2"] }
  progress := [1, 3]
  calls := [["c"], ["a", "bad"], ["a"], ["bad"]]
  state := ()

/-- The flight of the example lands. -/
theorem reaches_pickyLanded :
    Relation.ReflTransGen (Step pickyProvider 2)
      (init (Provider.chunks (pickyProvider.batchSize 5) pickyJobs) ()) pickyLanded :=
  .head (.send rfl (by decide)) <| .head (.send rfl (by decide)) <|
    .head (.ask [.whole [⟨"1", "a"⟩, ⟨"2", "bad"⟩]] [] rfl rfl) <|
    .head (.comeBack [.whole [⟨"1", "a"⟩, ⟨"2", "bad"⟩]] [] rfl) <|
    .head (.ask [] [] rfl rfl) <| .head (.ask [] [] rfl rfl) <| .head (.ask [] [] rfl rfl) <|
    .head (.comeBack [] [] rfl) .refl

/-- The last job has its own vector, though its batch came back first. -/
theorem pickyLanded_complete :
    pickyJobs ≠ [] ∧ (pickyJobs.map EmbeddingJob.symbolId).Nodup ∧
      pickyProvider.EmbedsEach (fun text => [if text = "a" then 0.0 else 1.0])
        (fun text => decide (text = "bad")) ∧
      Relation.ReflTransGen (Step pickyProvider 2)
        (init (Provider.chunks (pickyProvider.batchSize 5) pickyJobs) ()) pickyLanded ∧
      pickyLanded.Landed ∧ pickyLanded.OnCourse pickyProvider 2 2 ∧
      pickyLanded.Complete pickyProvider pickyJobs 2 := by
  have occupied : pickyJobs ≠ [] := List.cons_ne_nil _ _
  have distinct : (pickyJobs.map EmbeddingJob.symbolId).Nodup := by decide
  have landed : pickyLanded.Landed := ⟨rfl, rfl⟩
  obtain ⟨-, every, -⟩ := every_flight_complete pickyProvider 5 2 occupied distinct ()
  obtain ⟨onCourse, complete⟩ := every pickyLanded reaches_pickyLanded
  exact ⟨occupied, distinct, pickyProvider_embedsEach, reaches_pickyLanded, landed, onCourse,
    complete landed⟩

end Flight

end SourceAtlas
