import SourceAtlas.Index.Format
import SourceAtlas.Index.Pass
import SourceAtlas.Snapshot.Capture

/-!
# The index

An index belongs to one root directory. Builds and updates take the published
state to the next one or, when they fail, leave it as it was; queries only read
it. What lies outside an index (files, the state of the embedding provider, the
counters) is a `Workspace` and passes through every operation.
-/

namespace SourceAtlas

/-- Counters and gauges. -/
structure Metrics where
  searchRequests : Nat := 0
  skippedFiles : Nat := 0
  evictedSymbols : Nat := 0
  /-- Files and symbols of the state published last. -/
  indexedFiles : Nat := 0
  indexedSymbols : Nat := 0
  deriving DecidableEq, Repr

/-- What an index works with beside its own contents. -/
structure Workspace (σ : Type) where
  files : FileSystem
  /-- The state of the embedding provider. -/
  provider : σ
  metrics : Metrics := {}

/-- An index over one root directory. -/
structure Index (σ : Type) where
  /-- The path of the directory, free of links. -/
  root : String
  settings : Settings
  parser : FactParser
  provider : Option (Provider σ) := none
  published : IndexState := .empty
  phase : IndexPhase := .empty
  /-- How often a phase was announced to observers. -/
  announcements : Nat := 0

/-- How a build runs. -/
structure BuildOptions where
  /-- Start over instead of applying the changes since the published snapshot. -/
  force : Bool := false
  /-- The build was stopped before it began. -/
  cancelled : Bool := false
  deriving DecidableEq, Repr

/-- What came out of a build or an update. -/
structure PassOutcome (σ : Type) where
  result : Except IndexError PassStats
  index : Index σ
  workspace : Workspace σ
  events : List ProgressEvent := []

namespace Index

variable {σ : Type}

/-- The empty index over a directory. -/
def create (files : FileSystem) (root : String) (settings : Settings) (parser : FactParser)
    (provider : Option (Provider σ)) : Except IndexError (Index σ) :=
  match files.canonical root with
  | .ok canonical => .ok { root := canonical, settings, parser, provider }
  | .error failure => .error (.access root failure)

/-- Go to a phase and announce it. -/
def announce (index : Index σ) (phase : IndexPhase) : Index σ :=
  { index with phase, announcements := index.announcements + 1 }

/-- Replace the published state; the gauges follow. -/
def publish (index : Index σ) (workspace : Workspace σ) (state : IndexState) :
    Index σ × Workspace σ :=
  ({ index with published := state },
    { workspace with
      metrics :=
        { workspace.metrics with
          indexedFiles := state.graph.size
          indexedSymbols := state.symbols.size } })

/-- The file of the saved index. -/
def savePath (index : Index σ) : String := Settings.indexPath index.root

/-- The state in the file of a saved index. A file that cannot be read, or that holds something
else, gives none. -/
def savedState? (files : FileSystem) (path : String) : Option IndexState :=
  match files.readText path with
  | .ok text => (SavedIndex.parse? text).map SavedIndex.toState
  | .error _ => none

/-- The index over a directory with the state that was saved for it, if any. -/
def openSaved (workspace : Workspace σ) (root : String) (settings : Settings) (parser : FactParser)
    (provider : Option (Provider σ)) : Except IndexError (Index σ × Workspace σ) := do
  let index ← create workspace.files root settings parser provider
  match savedState? workspace.files index.savePath with
  | some state =>
    let (index, workspace) := index.publish workspace state
    .ok (index.announce .ready, workspace)
  | none => .ok (index, workspace)

/-- The context of a pass. -/
def context (index : Index σ) (files : FileSystem) (incremental : Bool) (now : Int) :
    PassContext σ where
  settings := index.settings
  parser := index.parser
  provider := index.provider
  files
  incremental
  now

/-- The options of captures below the root. -/
def captureOptions (index : Index σ) : CaptureOptions := index.settings.indexer.captureOptions

/-- Publish what a pass made. -/
def finish (index : Index σ) (workspace : Workspace σ) (made : PassContext.Made σ)
    (events : List ProgressEvent) : PassOutcome σ :=
  let metrics :=
    { workspace.metrics with
      skippedFiles := workspace.metrics.skippedFiles + made.skipped
      evictedSymbols := workspace.metrics.evictedSymbols + made.evicted }
  let (next, workspace) :=
    index.publish { workspace with provider := made.provider, metrics } made.state
  let files := made.state.stats.filesIndexed
  { result := .ok made.state.stats
    index := next.announce .ready
    workspace
    events := events ++ made.events ++ [{ step := .complete, current := files, total := files }] }

/-- End a pass that failed: the phase it began in comes back. -/
def abandon (index : Index σ) (phase : IndexPhase) (workspace : Workspace σ) (error : IndexError)
    (events : List ProgressEvent) : PassOutcome σ :=
  { result := .error error
    index := index.announce phase
    workspace
    events := if error = .cancelled then events ++ [{ step := .cancelled }] else events }

/-- Build or refresh the index. Without force, and with published contents, only the changes since
the published snapshot are applied. -/
def build (index : Index σ) (workspace : Workspace σ) (options : BuildOptions) (now : Int) :
    PassOutcome σ :=
  let incremental := !options.force && index.phase = .ready && index.published.snapshot.isSome
  let running := index.announce (.indexing incremental)
  let events : List ProgressEvent := [{ step := .scanning }]
  match Snapshot.capture workspace.files index.root index.captureOptions now with
  | .error error => running.abandon index.phase workspace error events
  | .ok snapshot =>
    if options.cancelled then running.abandon index.phase workspace .cancelled events
    else
      let base := if incremental then index.published else .empty
      let changes := Snapshot.diff base.snapshot snapshot
      let made :=
        (index.context workspace.files incremental now).apply base snapshot changes
          workspace.provider
      running.finish workspace made events

/-- The key of a path given by a user, absolute or relative to the root. A path that leaves the
root has none. -/
def keyOf? (index : Index σ) (files : FileSystem) (path : String) : Option String := do
  let key ←
    if Text.startsWith "/" path then
      match PathKey.relative? index.root path with
      | some key => some key
      | none =>
        match files.canonical path with
        | .ok canonical => PathKey.relative? index.root canonical
        | .error _ => none
    else some (Text.replaceChar '\\' "/" path)
  let normal ← PathKey.normalize? key
  if normal = "" then none else some normal

/-- Record the given keys anew; a key that is not tracked any more leaves. -/
def recordKeys (index : Index σ) (files : FileSystem) :
    List String → FileMap FileRecord → Except IndexError (FileMap FileRecord)
  | [], records => .ok records
  | key :: rest, records => do
    match ← Snapshot.recordFile? files index.root key index.captureOptions with
    | some record => index.recordKeys files rest (records.insert key record)
    | none => index.recordKeys files rest (records.erase key)

/-- Index the given paths again and nothing else. -/
def update (index : Index σ) (workspace : Workspace σ) (paths : List String) (now : Int) :
    PassOutcome σ :=
  match index.phase, index.published.snapshot with
  | .ready, some previous =>
    let running := index.announce (.indexing true)
    let keys : FileSet :=
      Std.ExtTreeSet.ofList (paths.filterMap (index.keyOf? workspace.files)) compare
    match index.recordKeys workspace.files keys.toList previous.files with
    | .error error => running.abandon index.phase workspace error []
    | .ok records =>
      let snapshot := Snapshot.ofFiles index.root now records []
      let changes := Snapshot.diff (some previous) snapshot
      let made :=
        (index.context workspace.files true now).apply index.published snapshot changes
          workspace.provider
      running.finish workspace made []
  | phase, _ =>
    { result := .error (.notReady "update_incremental" phase), index, workspace }

/-- Drop all contents, also the saved ones. -/
def clear (index : Index σ) (workspace : Workspace σ) :
    Except IndexError Unit × Index σ × Workspace σ :=
  let (index, workspace) := (index.announce .cleared).publish workspace .empty
  match workspace.files.removeFile index.savePath with
  | .ok files => (.ok (), index, { workspace with files })
  | .error .notFound => (.ok (), index, workspace)
  | .error failure => (.error (.access index.savePath failure), index, workspace)

/-- Write the published state beside the sources. The file appears whole or not at all. -/
def save (index : Index σ) (files : FileSystem) (now : Int) : Except IndexError Unit × FileSystem :=
  if index.published.snapshot.isNone then (.error (.notReady "save" index.phase), files)
  else
    let directory := PathKey.directory index.savePath
    let temporary := index.savePath ++ ".tmp"
    match files.makeDirectories directory with
    | .error failure => (.error (.access directory failure), files)
    | .ok files =>
      let text := (SavedIndex.ofState index.published).render
      match files.write temporary text.toUTF8 now with
      | .error failure => (.error (.access temporary failure), files)
      | .ok files =>
        match files.moveFile temporary index.savePath with
        | .error failure => (.error (.access index.savePath failure), files)
        | .ok files => (.ok (), files)

end Index

end SourceAtlas
