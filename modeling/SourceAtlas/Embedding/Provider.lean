import SourceAtlas.Embedding.Vector

/-!
# Embedding providers

A provider turns texts into vectors and may fail or answer with the wrong
number of them. Its own state, such as how often it was asked, is explicit.
-/

namespace SourceAtlas

/-- How well a provider is. -/
inductive Health where
  | healthy
  | degraded (reason : String)
  | unhealthy (reason : String)
  deriving DecidableEq, Repr

/-- The text of a health status. -/
def Health.label : Health → String
  | .healthy => "healthy"
  | .degraded reason => "degraded (" ++ reason ++ ")"
  | .unhealthy reason => "unhealthy (" ++ reason ++ ")"

/-- A failure of a provider: the outermost reason first, then its causes. -/
structure ProviderFailure where
  reason : String
  causes : List String := []
  deriving DecidableEq, Repr

/-- The reason of a failure with all its causes. -/
def ProviderFailure.chain (failure : ProviderFailure) : List String :=
  failure.reason :: failure.causes

/-- A source of vectors with state `σ`. -/
structure Provider (σ : Type) where
  /-- The number of components it answers with. -/
  dimension : Nat
  /-- The most texts it takes at once. -/
  maxBatch : Nat
  /-- Embed a list of texts. -/
  embed : List String → σ → Except ProviderFailure (List Embedding) × σ
  /-- Embed one query. -/
  embedQuery : String → σ → Except ProviderFailure Embedding × σ
  /-- How long embedding a query takes, in milliseconds, when it takes any time. -/
  queryDelay : Option Nat := none
  /-- Look whether it works. -/
  health : σ → Health × σ

end SourceAtlas
