import SourceAtlas.Embedding.Provider

/-!
# Batched embedding

Jobs are sent in batches. A batch that fails, or that is answered with the
wrong number of vectors, is retried item by item, so that one bad text costs
only itself.
-/

namespace SourceAtlas

/-- A symbol to embed and the text that stands for it. -/
structure EmbeddingJob where
  symbolId : String
  text : String
  deriving DecidableEq, Repr

/-- What became of a list of jobs. -/
structure BatchOutcome where
  vectors : List (String × Embedding) := []
  failed : List String := []

namespace BatchOutcome

/-- Both outcomes, the first one first. -/
def append (first second : BatchOutcome) : BatchOutcome where
  vectors := first.vectors ++ second.vectors
  failed := first.failed ++ second.failed

/-- The number of jobs settled. -/
def size (outcome : BatchOutcome) : Nat := outcome.vectors.length + outcome.failed.length

end BatchOutcome

namespace Provider

variable {σ : Type}

/-- Embed jobs one by one. -/
def embedEach (provider : Provider σ) : List EmbeddingJob → σ → BatchOutcome × σ
  | [], state => ({}, state)
  | job :: rest, state =>
    let (answer, state) := provider.embed [job.text] state
    let own : BatchOutcome :=
      match answer with
      | .ok [vector] => { vectors := [(job.symbolId, vector)] }
      | _ => { failed := [job.symbolId] }
    let (others, state) := provider.embedEach rest state
    (own.append others, state)

/-- Embed a batch at once, or one by one when that does not work out. -/
def embedBatch (provider : Provider σ) (batch : List EmbeddingJob) (state : σ) :
    BatchOutcome × σ :=
  match provider.embed (batch.map EmbeddingJob.text) state with
  | (.ok vectors, state) =>
    if vectors.length = batch.length then
      ({ vectors := (batch.map EmbeddingJob.symbolId).zip vectors }, state)
    else provider.embedEach batch state
  | (.error _, state) => provider.embedEach batch state

/-- The batch size in use: at least one and at most what the provider takes. -/
def batchSize (provider : Provider σ) (wanted : Nat) : Nat :=
  max 1 (min wanted (max provider.maxBatch 1))

/-- Cut a list into chunks of a positive size. The fuel bounds their number; the length of the list
is enough. -/
def chunksFrom {α : Type} (size : Nat) : Nat → List α → List (List α)
  | 0, _ => []
  | _ + 1, [] => []
  | fuel + 1, items => items.take size :: chunksFrom size fuel (items.drop size)

/-- Cut a list into chunks of a positive size, the last one possibly shorter. -/
def chunks {α : Type} (size : Nat) (items : List α) : List (List α) :=
  chunksFrom size items.length items

/-- Embed batch after batch, with the number of jobs settled after each. -/
def embedBatches (provider : Provider σ) :
    Nat → List (List EmbeddingJob) → σ → BatchOutcome × List Nat × σ
  | _, [], state => ({}, [], state)
  | done, batch :: rest, state =>
    let (own, state) := provider.embedBatch batch state
    let done := done + own.size
    let (others, progress, state) := provider.embedBatches done rest state
    (own.append others, done :: progress, state)

/-- Embed all jobs; the list counts the jobs settled after each batch. -/
def embedAll (provider : Provider σ) (wanted : Nat) (jobs : List EmbeddingJob) (state : σ) :
    BatchOutcome × List Nat × σ :=
  provider.embedBatches 0 (chunks (provider.batchSize wanted) jobs) state

end Provider

end SourceAtlas
