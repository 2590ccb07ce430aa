import SourceAtlas.Embedding.Batch
import SourceAtlas.Text.Split

/-!
# Embeddings from a remote service

Texts are sent in requests of bounded size. A failed request is repeated a
configured number of times. The service may list its items in any order; each
carries the index of the text it belongs to.
-/

namespace SourceAtlas

/-- A client of a remote embedding service. -/
structure RemoteEmbedder where
  model : String
  /-- The most texts in one request. -/
  requestSize : Nat
  maxRetries : Nat
  deriving DecidableEq, Repr

/-- What a service answers to one request: items with the index of their text. -/
abbrev Endpoint (σ : Type) := List String → σ → Except ProviderFailure (List (Nat × Embedding)) × σ

namespace RemoteEmbedder

/-- The service takes at most this many texts in a request. -/
def largestRequest : Nat := 2048

/-- The client for an environment that may hold the access key. -/
def create (environment : String → Option String) (keyVariable model : String)
    (batchSize maxRetries : Nat) : Except ProviderFailure RemoteEmbedder :=
  match environment keyVariable with
  | some _ =>
    .ok { model, requestSize := max 1 (min batchSize largestRequest), maxRetries }
  | none =>
    .error
      { reason := "OpenAI API key not found in $" ++ keyVariable
        causes := ["environment variable not found"] }

/-- The number of components of a model's vectors. -/
def dimension (client : RemoteEmbedder) : Nat :=
  if client.model = "text-embedding-3-large" then 3072 else 1536

variable {σ : Type}

/-- Send one request, with this many further attempts when it fails. -/
def request (endpoint : Endpoint σ) (texts : List String) :
    Nat → σ → Except ProviderFailure (List Embedding) × σ
  | retries, state =>
    match endpoint texts state with
    | (.ok items, state) =>
      (.ok ((items.mergeSort fun a b => a.1 ≤ b.1).map Prod.snd), state)
    | (.error failure, state) =>
      match retries with
      | 0 =>
        (.error
          { reason := "Max retries exceeded", causes := failure.reason :: failure.causes }, state)
      | retries + 1 => request endpoint texts retries state

/-- Send request after request until one fails for good. -/
def requests (client : RemoteEmbedder) (endpoint : Endpoint σ) :
    List (List String) → σ → Except ProviderFailure (List Embedding) × σ
  | [], state => (.ok [], state)
  | batch :: rest, state =>
    match request endpoint batch client.maxRetries state with
    | (.error failure, state) => (.error failure, state)
    | (.ok vectors, state) =>
      match client.requests endpoint rest state with
      | (.error failure, state) => (.error failure, state)
      | (.ok others, state) => (.ok (vectors ++ others), state)

/-- Embed texts through as many requests as needed. -/
def embed (client : RemoteEmbedder) (endpoint : Endpoint σ) (texts : List String) (state : σ) :
    Except ProviderFailure (List Embedding) × σ :=
  client.requests endpoint (Provider.chunks client.requestSize texts) state

/-- Embed one query. -/
def embedQuery (client : RemoteEmbedder) (endpoint : Endpoint σ) (query : String) (state : σ) :
    Except ProviderFailure Embedding × σ :=
  match client.embed endpoint [query] state with
  | (.ok (vector :: _), state) => (.ok vector, state)
  | (.ok [], state) => (.error { reason := "No embedding returned" }, state)
  | (.error failure, state) => (.error failure, state)

/-- The health of a service: whether it embeds a test query. -/
def health (client : RemoteEmbedder) (endpoint : Endpoint σ) (state : σ) : Health × σ :=
  match client.embedQuery endpoint "test" state with
  | (.ok _, state) => (.healthy, state)
  | (.error failure, state) =>
    if Text.contains "rate_limit" failure.reason then (.degraded "Rate limited", state)
    else (.unhealthy failure.reason, state)

/-- The client as a provider. -/
def provider (client : RemoteEmbedder) (endpoint : Endpoint σ) : Provider σ where
  dimension := client.dimension
  maxBatch := client.requestSize
  embed := client.embed endpoint
  embedQuery := client.embedQuery endpoint
  health := client.health endpoint

end RemoteEmbedder

end SourceAtlas
