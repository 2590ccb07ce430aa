import SourceAtlas.Config.Reader
import SourceAtlas.Embedding.Remote
import SourceAtlas.Index.Query

/-!
# Sessions

A command works on the index of its working directory. A query refreshes an
index that is missing or too old before it answers, and saves what it
refreshed. Effects of a session stay when it fails later.
-/

namespace SourceAtlas

/-- Why a command failed. -/
inductive CommandError where
  | settings (error : SettingsError)
  | opening (root : String) (error : IndexError)
  | index (error : IndexError)
  | provider (failure : ProviderFailure)
  deriving DecidableEq, Repr

/-- The text of an error with all its causes, outermost first. -/
def CommandError.chain : CommandError → List String
  | .settings error => error.message :: error.causes
  | .opening root error => ("Failed to open index for " ++ root) :: error.message :: error.causes
  | .index error => error.message :: error.causes
  | .provider failure => failure.chain

/-- What a command finds around it. -/
structure Surroundings (σ : Type) where
  /-- The working directory. -/
  root : String
  /-- The variables of the environment. -/
  environment : String → Option String
  /-- The embedding service at an address. -/
  service : ServiceSettings → Endpoint σ
  /-- The model of a name run in place with batches of a size. -/
  localModel : String → Nat → Except ProviderFailure (Provider σ)
  parser : FactParser

/-- A computation on a workspace that may fail. -/
abbrev Session (σ : Type) := ExceptT CommandError (StateM (Workspace σ))

namespace Surroundings

variable {σ : Type}

/-- The provider that the settings ask for. -/
def provider (around : Surroundings σ) (settings : EmbeddingSettings) :
    Except ProviderFailure (Provider σ) :=
  match settings.provider with
  | .localModel => around.localModel settings.model settings.batchSize
  | .service => do
    let client ←
      RemoteEmbedder.create around.environment settings.service.keyVariable settings.service.model
        settings.batchSize settings.service.maxRetries
    return client.provider (around.service settings.service)

end Surroundings

namespace Session

variable {σ : Type}

/-- Fail with an error of the index. -/
def ofIndex {α : Type} : Except IndexError α → Session σ α
  | .ok value => pure value
  | .error error => throw (.index error)

/-- The index of the working directory with its saved state and without provider. -/
def openIndex (around : Surroundings σ) : Session σ (Index σ) := do
  let workspace ← get
  match Settings.load workspace.files around.root with
  | .error error => throw (.settings error)
  | .ok settings =>
    match Index.openSaved workspace around.root settings around.parser none with
    | .error error => throw (.opening around.root error)
    | .ok (index, workspace) =>
      set workspace
      return index

/-- Attach the provider of the settings, if none is attached. -/
def attachProvider (around : Surroundings σ) (index : Index σ) : Session σ (Index σ) :=
  if index.provider.isSome then pure index
  else
    match around.provider index.settings.embeddings with
    | .ok provider => pure { index with provider := some provider }
    | .error failure => throw (.provider failure)

/-- Build an index. -/
def build (index : Index σ) (options : BuildOptions) (now : Int) : Session σ (Index σ × PassStats) := do
  let outcome := index.build (← get) options now
  set outcome.workspace
  return (outcome.index, ← ofIndex outcome.result)

/-- Save an index. -/
def save (index : Index σ) (now : Int) : Session σ Unit := do
  let workspace ← get
  let (result, files) := index.save workspace.files now
  set { workspace with files }
  ofIndex result

/-- Refresh an index that is missing or too old, and save it. -/
def refresh (around : Surroundings σ) (index : Index σ) (now : Int) : Session σ (Index σ) := do
  if index.isStale now then
    let index ← attachProvider around index
    let (index, _) ← build index {} now
    save index now
    return index
  else return index

/-- The refreshed index of the working directory. -/
def openFresh (around : Surroundings σ) (now : Int) : Session σ (Index σ) := do
  refresh around (← openIndex around) now

end Session

end SourceAtlas
