import SourceAtlas.Proofs.Index.Accounting

/-!
# What a provider is sent

A recorded provider answers like another one and notes the texts that it is
sent. A pass with a recorded provider makes what it makes with the other one,
and what is noted are the texts of the symbols it hands over: a batch that is
sent again item by item brings no other texts.
-/

namespace SourceAtlas

namespace Provider

variable {σ : Type}

/-- A provider that answers like another one and notes the texts that it is sent. -/
def recorded (provider : Provider σ) : Provider (σ × List String) where
  dimension := provider.dimension
  maxBatch := provider.maxBatch
  embed texts state :=
    ((provider.embed texts state.1).1, (provider.embed texts state.1).2, state.2 ++ texts)
  embedQuery text state :=
    ((provider.embedQuery text state.1).1, (provider.embedQuery text state.1).2, state.2)
  queryDelay := provider.queryDelay
  health state := ((provider.health state.1).1, (provider.health state.1).2, state.2)

/-- Recording notes the texts that are asked for one by one, and changes nothing. -/
theorem embedEach_recorded (provider : Provider σ) (jobs : List EmbeddingJob) (state : σ)
    (noted : List String) :
    provider.recorded.embedEach jobs (state, noted) =
      ((provider.embedEach jobs state).1, (provider.embedEach jobs state).2,
        noted ++ jobs.map EmbeddingJob.text) := by
  induction jobs generalizing state noted with
  | nil => simp [embedEach]
  | cons job rest inductionHypothesis =>
    have first : provider.recorded.embed [job.text] (state, noted) =
        ((provider.embed [job.text] state).1, (provider.embed [job.text] state).2,
          noted ++ [job.text]) := rfl
    simp only [embedEach, first, inductionHypothesis]
    simp

/-- A batch is sent as a whole, and perhaps once more item by item. -/
theorem embedBatch_recorded (provider : Provider σ) (batch : List EmbeddingJob) (state : σ)
    (noted : List String) :
    ∃ sent, provider.recorded.embedBatch batch (state, noted) =
        ((provider.embedBatch batch state).1, (provider.embedBatch batch state).2, noted ++ sent) ∧
      ∀ text, text ∈ sent ↔ text ∈ batch.map EmbeddingJob.text := by
  have whole : provider.recorded.embed (batch.map EmbeddingJob.text) (state, noted) =
      ((provider.embed (batch.map EmbeddingJob.text) state).1,
        (provider.embed (batch.map EmbeddingJob.text) state).2,
        noted ++ batch.map EmbeddingJob.text) := rfl
  have again : ∀ later : σ,
      ∃ sent, provider.recorded.embedEach batch (later, noted ++ batch.map EmbeddingJob.text) =
          ((provider.embedEach batch later).1, (provider.embedEach batch later).2, noted ++ sent) ∧
        ∀ text, text ∈ sent ↔ text ∈ batch.map EmbeddingJob.text := by
    intro later
    refine ⟨batch.map EmbeddingJob.text ++ batch.map EmbeddingJob.text, ?_, by simp⟩
    rw [embedEach_recorded, List.append_assoc]
  rw [embedBatch, embedBatch, whole]
  obtain ⟨answer, later⟩ := provider.embed (batch.map EmbeddingJob.text) state
  cases answer with
  | error failure => exact again later
  | ok vectors =>
    dsimp only
    split
    · exact ⟨_, rfl, fun _ => .rfl⟩
    · exact again later

/-- Recording notes the texts of all batches, and changes nothing. -/
theorem embedBatches_recorded (provider : Provider σ) (batches : List (List EmbeddingJob))
    (done : Nat) (state : σ) (noted : List String) :
    ∃ sent, provider.recorded.embedBatches done batches (state, noted) =
        ((provider.embedBatches done batches state).1,
          (provider.embedBatches done batches state).2.1,
          (provider.embedBatches done batches state).2.2, noted ++ sent) ∧
      ∀ text, text ∈ sent ↔ text ∈ batches.flatten.map EmbeddingJob.text := by
  induction batches generalizing done state noted with
  | nil => exact ⟨[], by simp [embedBatches], by simp⟩
  | cons batch rest inductionHypothesis =>
    obtain ⟨own, first, ownTexts⟩ := provider.embedBatch_recorded batch state noted
    obtain ⟨others, later, otherTexts⟩ := inductionHypothesis
      (done + (provider.embedBatch batch state).1.size) (provider.embedBatch batch state).2
      (noted ++ own)
    refine ⟨own ++ others, ?_, fun text => ?_⟩
    · simp only [embedBatches, first, later, List.append_assoc]
    · rw [List.mem_append, ownTexts, otherTexts, List.flatten_cons, List.map_append,
        List.mem_append]

/-- The texts that are sent are those of the jobs. -/
theorem embedAll_recorded (provider : Provider σ) (wanted : Nat) (jobs : List EmbeddingJob)
    (state : σ) (noted : List String) :
    ∃ sent, provider.recorded.embedAll wanted jobs (state, noted) =
        ((provider.embedAll wanted jobs state).1, (provider.embedAll wanted jobs state).2.1,
          (provider.embedAll wanted jobs state).2.2, noted ++ sent) ∧
      ∀ text, text ∈ sent ↔ text ∈ jobs.map EmbeddingJob.text := by
  obtain ⟨sent, same, texts⟩ := provider.embedBatches_recorded
    (chunks (provider.batchSize wanted) jobs) 0 state noted
  rw [flatten_chunks (provider.batchSize_pos wanted)] at texts
  exact ⟨sent, same, texts⟩

end Provider

namespace PassContext

variable {σ : Type} {context : PassContext σ} {base : IndexState} {snapshot : Snapshot}
  {changes : ChangeSet}

/-- The context with the provider recorded. -/
def recording (context : PassContext σ) : PassContext (σ × List String) :=
  { context with provider := context.provider.map Provider.recorded }

/-- An embedding whose provider has noted these texts. -/
def EmbeddingStep.noting (step : EmbeddingStep σ) (texts : List String) :
    EmbeddingStep (σ × List String) :=
  { step with provider := (step.provider, texts) }

/-- What a pass made whose provider has noted these texts. -/
def Made.noting (made : Made σ) (texts : List String) : Made (σ × List String) :=
  { made with provider := (made.provider, texts) }

/-- Recording notes the texts of the embedding stage, and changes nothing. -/
theorem embedSymbols_recording (context : PassContext σ) (symbols : SymbolTable)
    (cache : EmbeddingCache) (ids : List String) (state : σ) :
    ∃ sent, context.recording.embedSymbols symbols cache ids (state, []) =
        (context.embedSymbols symbols cache ids state).noting sent ∧
      (context.provider.isSome → ∀ text, text ∈ sent ↔
        text ∈ (jobsFor symbols ids).map EmbeddingJob.text) := by
  cases provided : context.provider with
  | none =>
    refine ⟨[], ?_, by simp⟩
    simp [embedSymbols, recording, provided, EmbeddingStep.noting]
  | some provider =>
    obtain ⟨sent, same, texts⟩ := provider.embedAll_recorded context.settings.embeddings.batchSize
      (jobsFor symbols ids) state []
    refine ⟨sent, ?_, fun _ => texts⟩
    simp only [embedSymbols, recording, provided, Option.map_some, same, EmbeddingStep.noting,
      List.nil_append, gather]

/-- The embedding of a pass that is recorded. -/
theorem embedded_recording (context : PassContext σ) (base : IndexState) (changes : ChangeSet)
    (provider : σ) :
    ∃ sent, context.recording.embedded base changes (provider, []) =
        (context.embedded base changes provider).noting sent ∧
      (context.provider.isSome → ∀ text, text ∈ sent ↔
        text ∈ (context.jobs base changes).map EmbeddingJob.text) :=
  context.embedSymbols_recording _ _ _ provider

/-- A pass that is recorded makes what it makes, and its provider is sent the texts of the symbols
that it hands over. -/
theorem rework_recording (distinct : ((context.parsedFiles changes).map ParsedFile.path).Nodup)
    (base : IndexState) (snapshot : Snapshot) (provider : σ) :
    ∃ sent, context.recording.rework base snapshot changes (provider, []) =
        (context.rework base snapshot changes provider).noting sent ∧
      (context.provider.isSome → ∀ text, text ∈ sent ↔
        text ∈ (context.handed base changes).map Symbol.embeddingText) := by
  obtain ⟨sent, embedded, texts⟩ := context.embedded_recording base changes provider
  have unpurged : context.recording.unpurged base changes (provider, []) =
      context.unpurged base changes provider :=
    Prod.ext rfl (congrArg EmbeddingStep.cache embedded)
  have noted : context.recording.noted base snapshot changes (provider, []) =
      context.noted base snapshot changes provider := by
    rw [PassContext.noted, PassContext.noted, embedded]
    rfl
  refine ⟨sent, ?_, fun provided text => ?_⟩
  · rw [rework_eq, rework_eq, unpurged, noted, embedded]
    rfl
  · rw [texts provided, (context.texts_jobs distinct base).mem_iff]

/-- So does a pass that is idle, which sends nothing. -/
theorem apply_recording {previous : Option Snapshot}
    (fresh : Snapshot.Fresh previous snapshot) (context : PassContext σ) (base : IndexState)
    (provider : σ) :
    ∃ sent, context.recording.apply base snapshot (Snapshot.diff previous snapshot) (provider, []) =
        (context.apply base snapshot (Snapshot.diff previous snapshot) provider).noting sent ∧
      (context.provider.isSome → ∀ text, text ∈ sent ↔
        text ∈ (context.handed base (Snapshot.diff previous snapshot)).map
          Symbol.embeddingText) := by
  by_cases idle : (context.incremental && (Snapshot.diff previous snapshot).isEmpty) = true
  · have none : context.parsedFiles (Snapshot.diff previous snapshot) = [] := by
      have unchanged := (Bool.and_eq_true_iff.mp idle).2
      simp only [ChangeSet.isEmpty, Bool.and_eq_true, List.isEmpty_iff] at unchanged
      simp [parsedFiles, toParse, ChangeSet.upserted, unchanged.1.1, unchanged.1.2, splitOutcomes]
    refine ⟨[], ?_, by simp [handed, none]⟩
    rw [apply, apply, if_pos idle]
    exact if_pos idle
  · obtain ⟨sent, same, texts⟩ := rework_recording
      (context.nodup_paths_parsedFiles fresh) base snapshot provider
    refine ⟨sent, ?_, texts⟩
    rw [apply, apply, if_neg idle, ← same]
    exact if_neg idle

end PassContext

namespace Index

variable {σ : Type}

/-- The index with its provider recorded. -/
def recording (index : Index σ) : Index (σ × List String) :=
  { index with provider := index.provider.map Provider.recorded }

/-- Recording takes no part in the records of files. -/
theorem recordKeys_recording (index : Index σ) (files : FileSystem) (keys : List String)
    (records : FileMap FileRecord) :
    index.recording.recordKeys files keys records = index.recordKeys files keys records := by
  induction keys generalizing records with
  | nil => rfl
  | cons key rest inductionHypothesis =>
    rw [recordKeys, recordKeys]
    refine bind_congr fun record => ?_
    cases record <;> exact inductionHypothesis _

end Index

/-- An outcome whose provider has noted these texts. -/
def PassOutcome.noting {σ : Type} (outcome : PassOutcome σ) (texts : List String) :
    PassOutcome (σ × List String) :=
  { outcome with
    index := outcome.index.recording
    workspace := { outcome.workspace with provider := (outcome.workspace.provider, texts) } }

namespace Visit

variable {σ : Type} {visit : Visit σ} {index : Index σ} {snapshot : Snapshot}

/-- The request with a provider that has noted nothing yet. -/
def recording (visit : Visit σ) : Visit (σ × List String) :=
  { visit with workspace := { visit.workspace with provider := (visit.workspace.provider, []) } }

/-- A recorded visit takes the same snapshot. -/
theorem Takes.recording (takes : visit.Takes index snapshot) :
    visit.recording.Takes index.recording snapshot := by
  cases takes with
  | capture request goes captured => exact .capture request goes captured
  | records request ready taken recorded same =>
    exact .records request ready taken ((index.recordKeys_recording _ _ _).trans recorded) same

/-- A request that is recorded does what it does, and its provider is sent the texts of the symbols
that its pass hands over. -/
theorem Takes.outcome_recording (takes : visit.Takes index snapshot) :
    ∃ sent, visit.recording.outcome index.recording = (visit.outcome index).noting sent ∧
      (index.provider.isSome → ∀ text, text ∈ sent ↔
        text ∈ (visit.handed index snapshot).map Symbol.embeddingText) := by
  obtain ⟨sent, made, texts⟩ := (visit.context index).apply_recording takes.fresh (visit.base index)
    visit.workspace.provider
  refine ⟨sent, ?_, texts⟩
  have recorded : visit.recording.made index.recording snapshot =
      (visit.made index snapshot).noting sent := made
  rw [takes.outcome_eq, takes.recording.outcome_eq, recorded]
  rfl

end Visit

end SourceAtlas
