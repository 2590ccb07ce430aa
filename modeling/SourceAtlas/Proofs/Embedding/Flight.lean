import Mathlib.Algebra.BigOperators.Group.Multiset.Basic
import Mathlib.Logic.Relation
import Mathlib.Tactic.Abel
import SourceAtlas.Embedding.Batch

/-!
# Batches in flight

Batches are sent side by side, up to a bound, and come back in any order. A
`Flight` is what waits, what is under way and what has come back; its steps are
those of `embedBatch`, cut at every question to the provider, so the steps of
different batches mix freely. `embedAll` is the run that brings each batch back
before it sends the next one.

No step adds or loses anything: what came back and what the rest is due to
bring (`Tally.ofFlight`) stay the same together, for the identifiers as for the
vectors of a provider that answers text by text.
-/

namespace SourceAtlas

namespace BatchOutcome

variable (first second third : BatchOutcome)

/-- An outcome without anything adds nothing behind another one. -/
@[simp]
theorem append_empty : first.append {} = first := by simp [append]

/-- An outcome without anything adds nothing before another one. -/
@[simp]
theorem empty_append : append {} first = first := by simp [append]

/-- Outcomes may be put together in either grouping. -/
theorem append_assoc : (first.append second).append third = first.append (second.append third) := by
  simp [append]

/-- Two outcomes account for as many jobs as each of them does. -/
@[simp]
theorem size_append : (first.append second).size = first.size + second.size := by
  simp only [append, size, List.length_append]
  omega

end BatchOutcome

/-- A batch under way. -/
inductive Sent where
  /-- Not answered yet. -/
  | whole (batch : List EmbeddingJob)
  /-- What is settled, and the jobs that are still to be sent one by one. -/
  | apart (settled : BatchOutcome) (rest : List EmbeddingJob)

/-- A bound of the steps that a batch under way has in front of it. -/
def Sent.work : Sent → Nat
  | .whole batch => batch.length + 2
  | .apart _ rest => rest.length + 1

/-- Batches on their way. -/
structure Flight (σ : Type) where
  waiting : List (List EmbeddingJob)
  sent : List Sent
  outcome : BatchOutcome
  /-- The number of jobs settled after each batch that came back. -/
  progress : List Nat
  /-- The texts of every question to the provider. -/
  calls : List (List String)
  state : σ

namespace Provider

variable {σ : Type} {provider : Provider σ}

/-! ## Cutting jobs into batches -/

section

variable {α : Type} {size fuel : Nat} {items chunk : List α}

/-- The first chunk is the front of the list, and the others are the chunks of the rest. -/
theorem chunksFrom_cons (size fuel : Nat) (first : α) (rest : List α) :
    chunksFrom size (fuel + 1) (first :: rest) =
      (first :: rest).take size :: chunksFrom size fuel ((first :: rest).drop size) := rfl

/-- Chunks put together give back the list, if there is fuel for every item. -/
theorem flatten_chunksFrom (positive : 0 < size) (enough : items.length ≤ fuel) :
    (chunksFrom size fuel items).flatten = items := by
  induction fuel generalizing items with
  | zero => rw [chunksFrom, List.eq_nil_of_length_eq_zero (Nat.le_zero.mp enough), List.flatten_nil]
  | succ fuel inductionHypothesis =>
    cases items with
    | nil => rfl
    | cons first rest =>
      have shorter : ((first :: rest).drop size).length ≤ fuel := by
        rw [List.length_drop]
        simp only [List.length_cons] at enough ⊢
        omega
      rw [chunksFrom_cons, List.flatten_cons, inductionHypothesis shorter, List.take_append_drop]

/-- No chunk is empty or longer than asked for. -/
theorem mem_chunksFrom (positive : 0 < size) (member : chunk ∈ chunksFrom size fuel items) :
    chunk ≠ [] ∧ chunk.length ≤ size := by
  induction fuel generalizing items with
  | zero => cases member
  | succ fuel inductionHypothesis =>
    cases items with
    | nil => cases member
    | cons first rest =>
      rw [chunksFrom_cons, List.mem_cons] at member
      rcases member with rfl | later
      · refine ⟨?_, List.length_take_le _ _⟩
        rw [List.take_cons positive]
        exact List.cons_ne_nil _ _
      · exact inductionHypothesis later

/-- Chunks put together give back the list. -/
theorem flatten_chunks (positive : 0 < size) (items : List α) : (chunks size items).flatten = items :=
  flatten_chunksFrom positive (Nat.le_refl _)

/-- No chunk is empty or longer than the size of a chunk. -/
theorem mem_chunks (positive : 0 < size) (member : chunk ∈ chunks size items) :
    chunk ≠ [] ∧ chunk.length ≤ size :=
  mem_chunksFrom positive member

end

/-- A batch has the wanted size, at most what the provider takes and at least one. -/
theorem batchSize_eq (provider : Provider σ) (wanted : Nat) :
    provider.batchSize wanted = max 1 (min wanted provider.maxBatch) := by
  rw [batchSize]
  omega

/-- No batch size is zero. -/
theorem batchSize_pos (provider : Provider σ) (wanted : Nat) : 0 < provider.batchSize wanted := by
  rw [batchSize]
  omega

/-! ## One question after the other -/

/-- The next question for a batch under way, with what becomes of the batch and the provider. A
batch that is settled asks nothing. -/
def ask (provider : Provider σ) : Sent → σ → Option (List String × Sent × σ)
  | .whole batch, state =>
    let texts := batch.map EmbeddingJob.text
    match provider.embed texts state with
    | (.ok vectors, state) =>
      if vectors.length = batch.length then
        some (texts, .apart { vectors := (batch.map EmbeddingJob.symbolId).zip vectors } [], state)
      else some (texts, .apart {} batch, state)
    | (.error _, state) => some (texts, .apart {} batch, state)
  | .apart settled (job :: rest), state =>
    let (own, state) := provider.embedEach [job] state
    some ([job.text], .apart (settled.append own) rest, state)
  | .apart _ [], _ => none

/-- All that a question can do. -/
theorem ask_cases {sent later : Sent} {state next : σ} {texts : List String}
    (asked : provider.ask sent state = some (texts, later, next)) :
    (∃ batch, sent = .whole batch ∧ texts = batch.map EmbeddingJob.text ∧
      (later = .apart {} batch ∨
        ∃ vectors, (provider.embed (batch.map EmbeddingJob.text) state).1 = .ok vectors ∧
          vectors.length = batch.length ∧
          later = .apart { vectors := (batch.map EmbeddingJob.symbolId).zip vectors } [])) ∨
    ∃ settled job rest, sent = .apart settled (job :: rest) ∧ texts = [job.text] ∧
      later = .apart (settled.append (provider.embedEach [job] state).1) rest := by
  cases sent with
  | whole batch =>
    refine .inl ⟨batch, rfl, ?_⟩
    simp only [ask] at asked
    split at asked
    next vectors _ answered =>
      split at asked
      next fits =>
        obtain ⟨rfl, rfl, -⟩ := by simpa using asked
        exact ⟨rfl, .inr ⟨vectors, congrArg Prod.fst answered, fits, rfl⟩⟩
      next =>
        obtain ⟨rfl, rfl, -⟩ := by simpa using asked
        exact ⟨rfl, .inl rfl⟩
    next =>
      obtain ⟨rfl, rfl, -⟩ := by simpa using asked
      exact ⟨rfl, .inl rfl⟩
  | apart settled jobs =>
    cases jobs with
    | nil => cases asked
    | cons job rest =>
      obtain ⟨rfl, rfl, -⟩ := by simpa [ask] using asked
      exact .inr ⟨settled, job, rest, rfl, rfl, rfl⟩

/-- Every request lowers the work that a batch has left. -/
theorem work_ask {sent later : Sent} {state next : σ} {texts : List String}
    (asked : provider.ask sent state = some (texts, later, next)) : later.work < sent.work := by
  obtain ⟨batch, rfl, -, rfl | ⟨vectors, -, -, rfl⟩⟩ | ⟨settled, job, rest, rfl, -, rfl⟩ :=
    ask_cases asked <;> simp [Sent.work]

/-- One job asked for alone is accounted for once. -/
theorem size_embedEach_one (provider : Provider σ) (job : EmbeddingJob) (state : σ) :
    (provider.embedEach [job] state).1.size = 1 := by
  simp only [embedEach]
  split <;> rfl

end Provider

namespace Flight

variable {σ : Type} {provider : Provider σ} {bound : Nat} {flight next start : Flight σ}

/-! ## Steps -/

/-- Nothing has been sent yet. -/
def init (batches : List (List EmbeddingJob)) (state : σ) : Flight σ where
  waiting := batches
  sent := []
  outcome := {}
  progress := []
  calls := []
  state

/-- Everything has come back. -/
def Landed (flight : Flight σ) : Prop := flight.waiting = [] ∧ flight.sent = []

/-- One step: the next batch is sent if there is room, some batch under way asks its next question,
or some batch that is settled comes back. -/
inductive Step (provider : Provider σ) (bound : Nat) : Flight σ → Flight σ → Prop where
  | send {flight : Flight σ} {batch rest} (waits : flight.waiting = batch :: rest)
      (room : flight.sent.length < max 1 bound) :
      Step provider bound flight
        { flight with waiting := rest, sent := flight.sent ++ [.whole batch] }
  | ask {flight : Flight σ} (before after : List Sent) {batch texts later state}
      (held : flight.sent = before ++ batch :: after)
      (asked : provider.ask batch flight.state = some (texts, later, state)) :
      Step provider bound flight
        { flight with
          sent := before ++ later :: after
          calls := flight.calls ++ [texts]
          state }
  | comeBack {flight : Flight σ} (before after : List Sent) {outcome}
      (held : flight.sent = before ++ .apart outcome [] :: after) :
      Step provider bound flight
        { flight with
          sent := before ++ after
          outcome := flight.outcome.append outcome
          progress := flight.progress ++ [(flight.outcome.append outcome).size] }

/-- A flight that has not landed has a step. -/
theorem landed_or_step (provider : Provider σ) (bound : Nat) (flight : Flight σ) :
    flight.Landed ∨ ∃ next, Step provider bound flight next := by
  obtain ⟨waiting, sent, outcome, progress, calls, state⟩ := flight
  cases sent with
  | nil =>
    cases waiting with
    | nil => exact .inl ⟨rfl, rfl⟩
    | cons batch rest =>
      exact .inr ⟨_, .send rfl (Nat.lt_of_lt_of_le Nat.zero_lt_one (le_max_left ..))⟩
  | cons first others =>
    right
    cases asked : provider.ask first state with
    | some answer => exact ⟨_, .ask [] _ rfl asked⟩
    | none =>
      cases first with
      | whole batch =>
        simp only [Provider.ask] at asked
        split at asked
        · split at asked <;> cases asked
        · cases asked
      | apart settled jobs =>
        cases jobs with
        | nil => exact ⟨_, .comeBack [] _ rfl⟩
        | cons job rest => cases asked

/-- A bound of the steps in front of a flight. -/
def work (flight : Flight σ) : Nat :=
  (flight.sent.map Sent.work).sum + (flight.waiting.map fun batch => batch.length + 3).sum

/-- Every move lowers the work that is left. -/
theorem Step.work_lt (step : Step provider bound flight next) : next.work < flight.work := by
  cases step with
  | send waits room =>
    simp only [work, waits, List.map_append, List.map_cons, List.map_nil, List.sum_append,
      List.sum_cons, List.sum_nil, Sent.work]
    omega
  | ask before after held asked =>
    have less := Provider.work_ask asked
    simp only [work, held, List.map_append, List.map_cons, List.sum_append, List.sum_cons]
    omega
  | comeBack before after held =>
    simp only [work, held, List.map_append, List.map_cons, List.sum_append, List.sum_cons, Sent.work]
    omega

/-- Every flight lands after finitely many steps, whichever are taken. -/
theorem wellFounded_step (provider : Provider σ) (bound : Nat) :
    WellFounded fun next flight => Step provider bound flight next :=
  Subrelation.wf Step.work_lt (measure work).wf

end Flight

/-! ## What is due -/

/-- Something to count over jobs: what an outcome brings and what is due for a job. -/
structure Tally (α : Type) where
  settled : BatchOutcome → List α
  due : EmbeddingJob → List α
  settled_empty : settled {} = []
  settled_append : ∀ first second,
    (settled (first.append second)).Perm (settled first ++ settled second)

namespace Tally

variable {α σ : Type} {tally : Tally α} {provider : Provider σ} {bound : Nat}
  {flight next start : Flight σ}

/-- What is due for jobs, in any order. -/
def ofJobs (tally : Tally α) (jobs : List EmbeddingJob) : Multiset α := jobs.flatMap tally.due

/-- The tally of two lists of jobs is the sum of theirs. -/
theorem ofJobs_append (tally : Tally α) (first second : List EmbeddingJob) :
    tally.ofJobs (first ++ second) = tally.ofJobs first + tally.ofJobs second := by
  rw [ofJobs, List.flatMap_append, ← Multiset.coe_add]
  rfl

/-- What an outcome brought, in any order. -/
def ofOutcome (tally : Tally α) (outcome : BatchOutcome) : Multiset α := tally.settled outcome

/-- An outcome without anything counts nothing. -/
@[simp]
theorem ofOutcome_empty (tally : Tally α) : tally.ofOutcome {} = 0 := by
  rw [ofOutcome, tally.settled_empty]
  rfl

/-- The tally of two outcomes is the sum of theirs. -/
@[simp]
theorem ofOutcome_append (tally : Tally α) (first second : BatchOutcome) :
    tally.ofOutcome (first.append second) = tally.ofOutcome first + tally.ofOutcome second :=
  (Multiset.coe_eq_coe.mpr (tally.settled_append first second)).trans (Multiset.coe_add _ _).symm

/-- What a batch under way brought and is due to bring. -/
def ofSent (tally : Tally α) : Sent → Multiset α
  | .whole batch => tally.ofJobs batch
  | .apart settled rest => tally.ofOutcome settled + tally.ofJobs rest

/-- What has come back and what the rest is due to bring. -/
def ofFlight (tally : Tally α) (flight : Flight σ) : Multiset α :=
  tally.ofOutcome flight.outcome + (flight.sent.map tally.ofSent).sum +
    (flight.waiting.map tally.ofJobs).sum

/-- The provider brings for a job, or for a batch that it answers, what is due. -/
structure KeptBy (tally : Tally α) (provider : Provider σ) : Prop where
  one : ∀ job state, tally.ofOutcome (provider.embedEach [job] state).1 = tally.ofJobs [job]
  batch : ∀ batch vectors state,
    (provider.embed (batch.map EmbeddingJob.text) state).1 = .ok vectors →
      vectors.length = batch.length →
        tally.ofOutcome { vectors := (batch.map EmbeddingJob.symbolId).zip vectors } =
          tally.ofJobs batch

/-- A request keeps the tally of its batch. -/
theorem KeptBy.ofSent_ask (kept : tally.KeptBy provider) {sent later : Sent} {state after : σ}
    {texts : List String} (asked : provider.ask sent state = some (texts, later, after)) :
    tally.ofSent later = tally.ofSent sent := by
  obtain ⟨batch, rfl, -, rfl | ⟨vectors, answered, fits, rfl⟩⟩ | ⟨settled, job, rest, rfl, -, rfl⟩ :=
    Provider.ask_cases asked
  · simp [ofSent]
  · simp only [ofSent, kept.batch batch vectors state answered fits]
    simp [ofJobs]
  · have first := tally.ofJobs_append [job] rest
    rw [List.singleton_append] at first
    rw [ofSent, ofSent, ofOutcome_append, kept.one, first, add_assoc]

/-- No step adds or loses anything. -/
theorem KeptBy.ofFlight_step (kept : tally.KeptBy provider)
    (step : Flight.Step provider bound flight next) :
    tally.ofFlight next = tally.ofFlight flight := by
  cases step with
  | send waits room =>
    simp only [ofFlight, waits, List.map_append, List.map_cons, List.map_nil, List.sum_append,
      List.sum_cons, List.sum_nil, ofSent]
    abel
  | ask before after held asked =>
    simp only [ofFlight, held, List.map_append, List.map_cons, List.sum_append, List.sum_cons,
      kept.ofSent_ask asked]
  | comeBack before after held =>
    simp only [ofFlight, held, List.map_append, List.map_cons, List.sum_append, List.sum_cons, ofSent,
      ofOutcome_append]
    simp only [ofJobs, List.flatMap_nil, Multiset.coe_nil]
    abel

/-- Every run of moves keeps the tally of the flight. -/
theorem KeptBy.ofFlight_reached (kept : tally.KeptBy provider)
    (reached : Relation.ReflTransGen (Flight.Step provider bound) start flight) :
    tally.ofFlight flight = tally.ofFlight start := by
  induction reached with
  | refl => rfl
  | tail _ step inductionHypothesis => exact (kept.ofFlight_step step).trans inductionHypothesis

/-- The tallies of the batches add up to the tally of all jobs. -/
theorem sum_map_ofJobs (tally : Tally α) (batches : List (List EmbeddingJob)) :
    (batches.map tally.ofJobs).sum = tally.ofJobs batches.flatten := by
  induction batches with
  | nil => rfl
  | cons batch rest inductionHypothesis =>
    rw [List.map_cons, List.sum_cons, List.flatten_cons, ofJobs_append, inductionHypothesis]

/-- When all has come back, it is what was due for the jobs. -/
theorem KeptBy.perm_of_landed (kept : tally.KeptBy provider) {batches : List (List EmbeddingJob)}
    {state : σ}
    (reached : Relation.ReflTransGen (Flight.Step provider bound) (Flight.init batches state) flight)
    (landed : flight.Landed) :
    (tally.settled flight.outcome).Perm (batches.flatten.flatMap tally.due) := by
  have same := kept.ofFlight_reached reached
  rw [ofFlight, ofFlight, landed.1, landed.2] at same
  simp only [Flight.init, List.map_nil, List.sum_nil, ofOutcome_empty, sum_map_ofJobs, add_zero,
    zero_add] at same
  exact Multiset.coe_eq_coe.mp same

/-- The identifiers, each either with a vector or without. -/
def ids : Tally String where
  settled outcome := outcome.vectors.map Prod.fst ++ outcome.failed
  due job := [job.symbolId]
  settled_empty := rfl
  settled_append first second := by
    rw [← Multiset.coe_eq_coe]
    simp only [BatchOutcome.append, List.map_append, ← Multiset.coe_add]
    abel

/-- Every provider keeps the identifiers. -/
theorem keptBy_ids (provider : Provider σ) : ids.KeptBy provider where
  one job state := by
    simp only [Provider.embedEach]
    split <;> rfl
  batch batch vectors state _ fits := by
    have zipped : ((batch.map EmbeddingJob.symbolId).zip vectors).map Prod.fst =
        batch.map EmbeddingJob.symbolId := List.map_fst_zip (by simp [fits])
    simp only [ofOutcome, ofJobs, ids, zipped, List.append_nil]
    rw [← List.map_eq_flatMap]

/-- The vectors, for a provider that embeds the texts that are not bad. -/
def vectors (embedding : String → Embedding) (bad : String → Bool) : Tally (String × Embedding) where
  settled := BatchOutcome.vectors
  due job := if bad job.text then [] else [(job.symbolId, embedding job.text)]
  settled_empty := rfl
  settled_append _ _ := .rfl

/-- The jobs without a vector, for a provider that refuses the bad texts. -/
def failed (bad : String → Bool) : Tally String where
  settled := BatchOutcome.failed
  due job := if bad job.text then [job.symbolId] else []
  settled_empty := rfl
  settled_append _ _ := .rfl

end Tally

/-! ## A provider with bad texts -/

/-- The provider embeds text by text, and answers no list that has a bad text among it with as many
vectors. -/
structure Provider.EmbedsEach {σ : Type} (provider : Provider σ) (embedding : String → Embedding)
    (bad : String → Bool) : Prop where
  good : ∀ texts state, (∀ text ∈ texts, bad text = false) →
    (provider.embed texts state).1 = .ok (texts.map embedding)
  refuses : ∀ texts state vectors, (∃ text ∈ texts, bad text = true) →
    (provider.embed texts state).1 = .ok vectors → vectors.length ≠ texts.length

namespace Provider.EmbedsEach

variable {σ : Type} {provider : Provider σ} {embedding : String → Embedding} {bad : String → Bool}

/-- A job asked for alone fails if its text is refused, and brings its vector otherwise. -/
theorem embedEach_one (embeds : provider.EmbedsEach embedding bad) (job : EmbeddingJob) (state : σ) :
    (provider.embedEach [job] state).1 =
      if bad job.text then { failed := [job.symbolId] }
      else { vectors := [(job.symbolId, embedding job.text)] } := by
  simp only [embedEach, BatchOutcome.append_empty]
  by_cases isBad : bad job.text = true
  · rw [if_pos isBad]
    have refused := embeds.refuses [job.text] state
    split
    next vector answered =>
      exact absurd rfl (refused [vector] ⟨job.text, List.mem_singleton.mpr rfl, isBad⟩ answered)
    next => rfl
  · rw [if_neg isBad, embeds.good [job.text] state (by simpa using isBad)]
    rfl

/-- An answer to a whole batch refuses none of its texts, and brings the vector of each. -/
theorem embed_ok (embeds : provider.EmbedsEach embedding bad) {batch : List EmbeddingJob}
    {vectors : List Embedding} {state : σ}
    (answered : (provider.embed (batch.map EmbeddingJob.text) state).1 = .ok vectors)
    (fits : vectors.length = batch.length) :
    (∀ job ∈ batch, bad job.text = false) ∧
      (batch.map EmbeddingJob.symbolId).zip vectors =
        batch.map fun job => (job.symbolId, embedding job.text) := by
  have good : ∀ text ∈ batch.map EmbeddingJob.text, bad text = false := by
    intro text member
    by_contra isBad
    exact embeds.refuses _ state vectors ⟨text, member, by simpa using isBad⟩ answered
      (by simp [fits])
  have same := Except.ok.inj ((embeds.good _ state good).symm.trans answered)
  refine ⟨fun job member => good job.text (List.mem_map_of_mem member), ?_⟩
  rw [← same, List.map_map, ← List.zip_map']
  rfl

/-- The vectors to come are kept by a provider that embeds each text by itself. -/
theorem keeps_vectors (embeds : provider.EmbedsEach embedding bad) :
    (Tally.vectors embedding bad).KeptBy provider where
  one job state := by
    rw [embeds.embedEach_one]
    cases isBad : bad job.text <;> simp [Tally.ofOutcome, Tally.ofJobs, Tally.vectors, isBad]
  batch batch vectors state answered fits := by
    obtain ⟨good, zipped⟩ := embeds.embed_ok answered fits
    rw [Tally.ofOutcome, Tally.ofJobs, Tally.vectors, zipped, List.map_eq_flatMap]
    exact congrArg _ (List.flatMap_congr fun job member => by simp [good job member])

/-- The failures to come are kept by a provider that embeds each text by itself. -/
theorem keeps_failed (embeds : provider.EmbedsEach embedding bad) :
    (Tally.failed bad).KeptBy provider where
  one job state := by
    rw [embeds.embedEach_one]
    cases isBad : bad job.text <;> simp [Tally.ofOutcome, Tally.ofJobs, Tally.failed, isBad]
  batch batch vectors state answered fits := by
    obtain ⟨good, -⟩ := embeds.embed_ok answered fits
    have none : batch.flatMap (Tally.failed bad).due = [] :=
      List.flatMap_eq_nil_iff.mpr fun job member => by simp [Tally.failed, good job member]
    rw [Tally.ofOutcome, Tally.ofJobs, none]
    rfl

end Provider.EmbedsEach

end SourceAtlas
