import SourceAtlas.Proofs.Index.Accounting
import SourceAtlas.Proofs.Index.Budget

/-!
# Batches that come back in any order

A pass may have several batches under way and gathers what comes back in the
order in which it does: `reworkOn` is the pass whose batches come back as in a
given flight, and `rework` is the one for the flight that sends batch after
batch. All flights of a pass give the same counts, pair every vector with a
symbol and keep the budget.

Which vectors are refused may depend on the order, since the first vector sets
the dimension. It does not for a provider that embeds text by text in vectors of
one length: then all flights publish the same, up to the order in which the
failures are noted.
-/

namespace SourceAtlas

/-- Two states that differ at most in the order of their failures. -/
structure IndexState.Alike (one other : IndexState) : Prop where
  snapshot : one.snapshot = other.snapshot
  symbols : one.symbols = other.symbols
  graph : one.graph = other.graph
  embeddings : one.embeddings = other.embeddings
  stats : one.stats = other.stats
  failures : Option.Rel (fun first second => first.failures.Perm second.failures) one.failures
    other.failures

namespace PassContext

variable {σ : Type} {symbols : SymbolTable} {cache : EmbeddingCache} {width : Nat} {now : Int}
  {vectors : List (String × Embedding)}

/-! ## Storing vectors of one length -/

/-- Store a vector without asking. -/
def put (now : Int) (cache : EmbeddingCache) (offer : String × Embedding) : EmbeddingCache where
  entries := cache.entries.insert offer.1
    { symbolId := offer.1, vector := offer.2, lastAccess := now }
  dimension := some offer.2.length

/-- Whether a cache accepts a vector. -/
def accepts (symbols : SymbolTable) (cache : EmbeddingCache) (offer : String × Embedding) : Bool :=
  symbols.contains offer.1 && cache.dimension.getD offer.2.length == offer.2.length

/-- What is noted of a vector that is refused. -/
def refusal? (symbols : SymbolTable) (cache : EmbeddingCache) (now : Int)
    (offer : String × Embedding) : Option Failure :=
  match cache.insert symbols offer.1 offer.2 now with
  | .ok _ => none
  | .error error => some { path := offer.1, reason := error.message, stage := .embedding }

/-- An accepted vector is put into the cache and counted. -/
theorem storeVectors_cons_of_accepts {offer : String × Embedding}
    (accepted : accepts symbols cache offer = true) (now : Int)
    (rest : List (String × Embedding)) :
    refusal? symbols cache now offer = none ∧
      storeVectors symbols now (offer :: rest) cache =
        ((storeVectors symbols now rest (put now cache offer)).1,
          (storeVectors symbols now rest (put now cache offer)).2.1 + 1,
          (storeVectors symbols now rest (put now cache offer)).2.2) := by
  obtain ⟨known, fits⟩ := by simpa [accepts] using accepted
  have inserted : cache.insert symbols offer.1 offer.2 now = .ok (put now cache offer) :=
    EmbeddingCache.insert_eq_ok_iff.mpr ⟨known, fits, rfl⟩
  exact ⟨by rw [refusal?, inserted], by rw [storeVectors, inserted]⟩

/-- A refused vector leaves a failure and the cache as it was. -/
theorem storeVectors_cons_of_refuses {offer : String × Embedding}
    (refused : accepts symbols cache offer = false) (now : Int)
    (rest : List (String × Embedding)) :
    ∃ failure, refusal? symbols cache now offer = some failure ∧
      storeVectors symbols now (offer :: rest) cache =
        (failure :: (storeVectors symbols now rest cache).1,
          (storeVectors symbols now rest cache).2.1,
          (storeVectors symbols now rest cache).2.2) := by
  cases inserted : cache.insert symbols offer.1 offer.2 now with
  | ok next =>
    obtain ⟨known, fits, -⟩ := EmbeddingCache.insert_eq_ok_iff.mp inserted
    simp [accepts, known, fits] at refused
  | error error => exact ⟨_, by rw [refusal?, inserted], by rw [storeVectors, inserted]⟩

/-- Among vectors of one length, one that is stored changes nothing for the others. -/
theorem accepts_put {first offer : String × Embedding}
    (accepted : accepts symbols cache first = true) (same : first.2.length = offer.2.length)
    (now : Int) :
    accepts symbols (put now cache first) offer = accepts symbols cache offer ∧
      refusal? symbols (put now cache first) now offer = refusal? symbols cache now offer := by
  obtain ⟨-, fits⟩ := by simpa [accepts] using accepted
  have dimension : (put now cache first).dimension.getD offer.2.length =
      cache.dimension.getD offer.2.length := by
    rw [← same, fits]
    rfl
  constructor
  · rw [accepts, accepts, dimension]
  · simp only [refusal?, EmbeddingCache.insert, dimension]
    by_cases known : symbols.contains offer.1 = true
    · by_cases fits : cache.dimension.getD offer.2.length = offer.2.length <;> simp [known, fits]
    · simp [known]

/-- Of vectors of one length those are stored that the cache accepts at the start. -/
theorem storeVectors_eq (uniform : ∀ offer ∈ vectors, offer.2.length = width) :
    storeVectors symbols now vectors cache =
      (vectors.filterMap (refusal? symbols cache now),
        (vectors.filter (accepts symbols cache)).length,
        (vectors.filter (accepts symbols cache)).foldl (put now) cache) := by
  induction vectors generalizing cache with
  | nil => rfl
  | cons first rest inductionHypothesis =>
    obtain ⟨own, others⟩ := List.forall_mem_cons.mp uniform
    cases accepted : accepts symbols cache first with
    | true =>
      obtain ⟨noted, stored⟩ := storeVectors_cons_of_accepts accepted now rest
      have alike : ∀ offer ∈ rest, _ := fun offer member =>
        accepts_put accepted (own.trans (others offer member).symm) now
      rw [stored, inductionHypothesis others, List.filterMap_cons_none noted,
        List.filter_cons_of_pos accepted,
        List.filter_congr fun offer member => (alike offer member).1,
        List.filterMap_congr fun offer member => (alike offer member).2]
      rfl
    | false =>
      obtain ⟨failure, noted, stored⟩ := storeVectors_cons_of_refuses accepted now rest
      rw [stored, inductionHypothesis others, List.filterMap_cons_some noted,
        List.filter_cons_of_neg (by simp [accepted])]

/-- Two vectors of one length may be put in either order, if they do not disagree on an id. -/
theorem put_comm {first second : String × Embedding} (same : first.2.length = second.2.length)
    (apart : first.1 = second.1 → first = second) (now : Int) (cache : EmbeddingCache) :
    put now (put now cache first) second = put now (put now cache second) first := by
  by_cases equal : first.1 = second.1
  · rw [apart equal]
  · simp only [put, same, EmbeddingCache.mk.injEq, and_true]
    refine Std.ExtTreeMap.ext_getElem? fun id => ?_
    simp only [Std.ExtTreeMap.getElem?_insert, Std.compare_eq_iff_eq]
    grind

/-- Vectors of one length may be stored in any order, if no symbol has two. -/
theorem storeVectors_perm {others : List (String × Embedding)} (perm : vectors.Perm others)
    (uniform : ∀ offer ∈ vectors, offer.2.length = width)
    (single : ∀ first ∈ vectors, ∀ second ∈ vectors, first.1 = second.1 → first = second)
    (symbols : SymbolTable) (now : Int) (cache : EmbeddingCache) :
    (storeVectors symbols now vectors cache).1.Perm (storeVectors symbols now others cache).1 ∧
      (storeVectors symbols now vectors cache).2 = (storeVectors symbols now others cache).2 := by
  have uniform' : ∀ offer ∈ others, offer.2.length = width := fun offer member =>
    uniform offer (perm.mem_iff.mpr member)
  have kept := perm.filter (accepts symbols cache)
  rw [storeVectors_eq uniform, storeVectors_eq uniform']
  refine ⟨perm.filterMap _, Prod.ext kept.length_eq ?_⟩
  refine kept.foldl_eq' (fun first inside second inside' cache => ?_) cache
  have member := (List.mem_filter.mp inside).1
  have member' := (List.mem_filter.mp inside').1
  exact put_comm ((uniform first member).trans (uniform second member').symm)
    (single first member second member') now cache

/-! ## Flights of a pass -/

variable {context : PassContext σ} {base : IndexState} {snapshot : Snapshot} {changes : ChangeSet}
  {asked : Provider σ} {state : σ} {flight : Flight σ}

/-- What a pass gathers of a flight. -/
def gathered (context : PassContext σ) (base : IndexState) (changes : ChangeSet)
    (flight : Flight σ) : EmbeddingStep σ :=
  context.gather (context.stored base changes).2.1 (context.stored base changes).2.2
    (context.jobs base changes) flight.outcome flight.progress flight.state

/-- A pass whose batches come back as in a flight. -/
def reworkOn (context : PassContext σ) (base : IndexState) (snapshot : Snapshot)
    (changes : ChangeSet) (flight : Flight σ) : Made σ :=
  context.reworkBy base snapshot changes fun symbols cache ids =>
    context.gather symbols cache (jobsFor symbols ids) flight.outcome flight.progress flight.state

/-- A flight of the jobs of a pass, with no more batches under way than the settings allow, that has
landed. -/
structure Flies (context : PassContext σ) (base : IndexState) (changes : ChangeSet)
    (asked : Provider σ) (state : σ) (flight : Flight σ) : Prop where
  reached : Relation.ReflTransGen
    (Flight.Step asked context.settings.embeddings.concurrentBatches)
    (Flight.init (Provider.chunks (asked.batchSize context.settings.embeddings.batchSize)
      (context.jobs base changes)) state) flight
  landed : flight.Landed

/-- What becomes of the symbols to embed is asked once, for what the pass has stored. -/
theorem reworkBy_eq (context : PassContext σ) (base : IndexState) (snapshot : Snapshot)
    (changes : ChangeSet)
    (embed : SymbolTable → EmbeddingCache → List String → EmbeddingStep σ) :
    context.reworkBy base snapshot changes embed =
      context.reworkBy base snapshot changes fun _ _ _ =>
        embed (context.stored base changes).2.1 (context.stored base changes).2.2
          (context.stored base changes).1 := rfl

/-- Working on a flight is working with the vectors gathered from it. -/
theorem reworkOn_eq (context : PassContext σ) (base : IndexState) (snapshot : Snapshot)
    (changes : ChangeSet) (flight : Flight σ) :
    context.reworkOn base snapshot changes flight =
      context.reworkBy base snapshot changes fun _ _ _ => context.gathered base changes flight :=
  rfl

/-- Batch after batch is one of the flights. -/
theorem exists_flies (provided : context.provider = some asked) (base : IndexState)
    (snapshot : Snapshot) (changes : ChangeSet) (state : σ) :
    ∃ flight, context.Flies base changes asked state flight ∧
      context.rework base snapshot changes state =
        context.reworkOn base snapshot changes flight := by
  obtain ⟨calls, reached⟩ := Flight.reaches_embedAll asked
    context.settings.embeddings.concurrentBatches context.settings.embeddings.batchSize
    (context.jobs base changes) state
  refine ⟨_, ⟨reached, rfl, rfl⟩, ?_⟩
  rw [rework, reworkBy_eq, reworkOn_eq, embedSymbols, provided]
  rfl

/-- The jobs of a flight of a pass come back, each with a vector or without. -/
theorem Flies.ids (flies : context.Flies base changes asked state flight) :
    (flight.outcome.vectors.map Prod.fst ++ flight.outcome.failed).Perm
      ((context.jobs base changes).map EmbeddingJob.symbolId) := by
  have once := (Tally.keptBy_ids asked).perm_of_landed flies.reached flies.landed
  rwa [Provider.flatten_chunks (asked.batchSize_pos _), Tally.ids, ← List.map_eq_flatMap] at once

/-- In whatever order its batches come back, a pass embeds or notes every symbol that it stored for
the files it parsed. -/
theorem Flies.counts (flies : context.Flies base changes asked state flight)
    (distinct : ((context.parsedFiles changes).map ParsedFile.path).Nodup) :
    (context.gathered base changes flight).generated +
      (context.gathered base changes flight).failures.length =
        (context.handed base changes).length := by
  have back := flies.ids.length_eq
  have size := (context.texts_jobs distinct base).length_eq
  simp only [List.length_append, List.length_map] at back size
  exact (context.gather_counts ..).trans (back.trans size)

/-- In whatever order its batches come back, a pass leaves vectors only for symbols and keeps the
budget. -/
theorem sound_reworkOn (paired : base.Paired) (identified : base.symbols.Identified)
    (context : PassContext σ) (snapshot : Snapshot) (changes : ChangeSet) (flight : Flight σ) :
    (context.reworkOn base snapshot changes flight).state.Paired ∧
      (MemoryBudget.ofMegabytes context.settings.embeddings.maxMemory).Holds
        (context.reworkOn base snapshot changes flight).state.contents := by
  have start : base.contents.2.Paired base.contents.1 := paired
  have left := paired_foldl_dropFile start (dropped changes (context.parsedFiles changes))
  have stored := paired_storeFiles left context.now (context.parsedFiles changes)
  let contents := ((context.stored base changes).2.1, (context.gathered base changes flight).cache)
  have gathered : contents.2.Paired contents.1 :=
    paired_storeVectors stored context.now flight.outcome.vectors
  have unpurged : (context.unpurged base changes flight.state).1.Identified :=
    identified_unpurged identified flight.state
  have known : (context.stored base changes).2.1.Identified := unpurged
  exact ⟨paired_settle gathered context, MemoryBudget.holds_enforce _ known⟩

/-! ## Text by text -/

/-- The order of the failures does not change how many are of a stage. -/
theorem length_ofStage_of_perm {first second : List Failure} (perm : first.Perm second)
    (before : List Failure) (stage : Stage) :
    (FailureReport.ofStage ⟨before ++ first⟩ stage).length =
      (FailureReport.ofStage ⟨before ++ second⟩ stage).length :=
  ((perm.append_left before).filter _).length_eq

/-- What a pass makes depends on what it embeds by the vectors, their number and the failures. -/
theorem alike_reworkBy {one other : EmbeddingStep σ} (cache : one.cache = other.cache)
    (generated : one.generated = other.generated) (failures : one.failures.Perm other.failures)
    (context : PassContext σ) (base : IndexState) (snapshot : Snapshot) (changes : ChangeSet) :
    (context.reworkBy base snapshot changes fun _ _ _ => one).state.Alike
      (context.reworkBy base snapshot changes fun _ _ _ => other).state := by
  have lengths := length_ofStage_of_perm failures
    (unreadable snapshot ++ context.unparsed changes)
  obtain ⟨noted, count, vectors, progress, provider⟩ := one
  obtain ⟨noted', count', vectors', progress', provider'⟩ := other
  obtain rfl : vectors = vectors' := cache
  obtain rfl : count = count' := generated
  refine ⟨rfl, rfl, rfl, rfl, ?_, .some (failures.append_left _)⟩
  simp only [unreadable, unparsed] at lengths
  simp only [reworkBy, lengths]

/-- The text of a job is that of its symbol. -/
theorem text_of_mem_jobsFor {ids : List String} {job : EmbeddingJob}
    (member : job ∈ jobsFor symbols ids) :
    (symbols.get? job.symbolId).map Symbol.embeddingText = some job.text := by
  obtain ⟨id, -, made⟩ := List.mem_filterMap.mp member
  obtain ⟨symbol, found, rfl⟩ := Option.map_eq_some_iff.mp made
  exact congrArg (Option.map Symbol.embeddingText) found

section

variable {embedding : String → Embedding} {bad : String → Bool}

/-- Of a provider that embeds text by text, the vectors of the good texts come back. -/
theorem Flies.brings (flies : context.Flies base changes asked state flight)
    (embeds : asked.EmbedsEach embedding bad) :
    flight.outcome.vectors.Perm (((context.jobs base changes).filter fun job => !bad job.text).map
        fun job => (job.symbolId, embedding job.text)) ∧
      flight.outcome.failed.Perm
        (((context.jobs base changes).filter fun job => bad job.text).map
          EmbeddingJob.symbolId) := by
  have vectors := embeds.keeps_vectors.perm_of_landed flies.reached flies.landed
  have failed := embeds.keeps_failed.perm_of_landed flies.reached flies.landed
  rw [Provider.flatten_chunks (asked.batchSize_pos _)] at vectors failed
  rw [Flight.flatMap_due_vectors] at vectors
  rw [Flight.flatMap_due_failed] at failed
  exact ⟨vectors, failed⟩

/-- With such a provider, in vectors of one length, a pass publishes the same in whatever order its
batches come back; only the order of its failures may differ. -/
theorem Flies.alike (flies : context.Flies base changes asked state flight)
    (provided : context.provider = some asked) (embeds : asked.EmbedsEach embedding bad)
    (uniform : ∀ text, (embedding text).length = width) (snapshot : Snapshot) :
    (context.reworkOn base snapshot changes flight).state.Alike
      (context.rework base snapshot changes state).state := by
  obtain ⟨sequential, lands, same⟩ := exists_flies provided base snapshot changes state
  obtain ⟨vectors, failed⟩ := flies.brings embeds
  obtain ⟨vectors', failed'⟩ := lands.brings embeds
  have made {offer : String × Embedding} (member : offer ∈ flight.outcome.vectors) :
      ∃ job ∈ context.jobs base changes, (job.symbolId, embedding job.text) = offer := by
    obtain ⟨job, inside, made⟩ := List.mem_map.mp (vectors.mem_iff.mp member)
    exact ⟨job, (List.mem_filter.mp inside).1, made⟩
  have lengths : ∀ offer ∈ flight.outcome.vectors, offer.2.length = width := by
    intro offer member
    obtain ⟨job, -, rfl⟩ := made member
    exact uniform job.text
  -- A symbol has one text, so its vectors are the same.
  have single : ∀ first ∈ flight.outcome.vectors, ∀ second ∈ flight.outcome.vectors,
      first.1 = second.1 → first = second := by
    intro first member second member' same
    obtain ⟨job, inside, rfl⟩ := made member
    obtain ⟨job', inside', rfl⟩ := made member'
    have texts := text_of_mem_jobsFor inside
    rw [show job.symbolId = job'.symbolId from same, text_of_mem_jobsFor inside'] at texts
    rw [show job.symbolId = job'.symbolId from same, Option.some.inj texts]
  obtain ⟨refused, stored⟩ := storeVectors_perm (vectors.trans vectors'.symm) lengths single
    (context.stored base changes).2.1 context.now (context.stored base changes).2.2
  rw [same, reworkOn_eq, reworkOn_eq]
  exact alike_reworkBy (congrArg Prod.snd stored) (congrArg Prod.fst stored)
    (refused.append ((failed.trans failed'.symm).map _)) context base snapshot changes

end

end PassContext

end SourceAtlas
