import SourceAtlas.Index.Basic
import SourceAtlas.Proofs.Index.Pass

/-!
# Incremental passes refine full passes

A run is a sequence of builds and updates that succeed, each on the tree as it
is then (`Reached`). In a run that evicts nothing, and in which files that a
change set calls unchanged keep their text, every pass publishes what the files
hold that it met (`Current`).
-/

namespace SourceAtlas

namespace PassContext

variable {σ : Type} {first second : PassContext σ} {state : IndexState}

/-- Equal rules read equal contents from equal files. -/
theorem contentAt?_congr (same : SameRules first second) (files : first.files = second.files)
    (tracked : FileMap FileRecord) : first.contentAt? tracked = second.contentAt? tracked := by
  funext path
  rw [contentAt?, contentAt?]
  congr 1
  funext record
  exact contentOf?_congr same rfl (by rw [files])

/-- What a state reflects depends on the rules and the files alone. -/
theorem Reflects.congr (reflects : first.Reflects state) (same : SameRules first second)
    (files : first.files = second.files) : second.Reflects state where
  keyed := reflects.keyed
  symbols := contentAt?_congr same files _ ▸ reflects.symbols
  graph := by
    have graph := reflects.graph
    rwa [Maps, contentAt?_congr same files, same.settings] at graph

end PassContext

/-- A request for a pass. -/
inductive PassRequest where
  | build (options : BuildOptions)
  | update (paths : List String)
  deriving DecidableEq, Repr

/-- A request with the workspace it meets and the time it is made at. -/
structure Visit (σ : Type) where
  request : PassRequest
  workspace : Workspace σ
  now : Int

namespace Visit

variable {σ : Type} {visit : Visit σ} {index : Index σ} {stats : PassStats}

/-- What the request gives. -/
def outcome (visit : Visit σ) (index : Index σ) : PassOutcome σ :=
  match visit.request with
  | .build options => index.build visit.workspace options visit.now
  | .update paths => index.update visit.workspace paths visit.now

/-- Whether the pass starts from the published contents. -/
def isIncremental (visit : Visit σ) (index : Index σ) : Bool :=
  match visit.request with
  | .build options => !options.force && index.phase = .ready && index.published.snapshot.isSome
  | .update _ => true

/-- The contents that the pass starts from. -/
def base (visit : Visit σ) (index : Index σ) : IndexState :=
  if visit.isIncremental index then index.published else .empty

/-- A pass starts from what is published or from nothing. -/
theorem holds_base {motive : IndexState → Prop} (published : motive index.published)
    (blank : motive .empty) (visit : Visit σ) : motive (visit.base index) := by
  rw [base]
  split
  · exact published
  · exact blank

/-- The pass over a snapshot. -/
def made (visit : Visit σ) (index : Index σ) (snapshot : Snapshot) : PassContext.Made σ :=
  (index.context visit.workspace.files (visit.isIncremental index) visit.now).apply
    (visit.base index) snapshot (Snapshot.diff (visit.base index).snapshot snapshot)
    visit.workspace.provider

/-- Recording files keeps records under their paths. -/
theorem keyed_recordKeys {files : FileSystem} {keys : List String}
    {records after : FileMap FileRecord} (keyed : Keyed records)
    (recorded : index.recordKeys files keys records = .ok after) : Keyed after := by
  induction keys generalizing records with
  | nil =>
    cases recorded
    exact keyed
  | cons key rest inductionHypothesis =>
    obtain ⟨record?, found, recorded⟩ := bind_eq_ok_iff.mp recorded
    cases record? with
    | none => exact inductionHypothesis (keyed.erase key) recorded
    | some record =>
      have own := Snapshot.path_recordFile? found
      subst own
      exact inductionHypothesis keyed.insert recorded

/-- A request that succeeds took a snapshot and published what the pass over it made. -/
theorem published_of_ok (keyed : Keyed (Snapshot.filesOf index.published.snapshot))
    (succeeds : (visit.outcome index).result = .ok stats) :
    ∃ snapshot, Keyed snapshot.files ∧
      (visit.outcome index).index =
        { index with
          published := (visit.made index snapshot).state
          phase := .ready
          announcements := index.announcements + 2 } ∧
      (visit.outcome index).workspace.metrics.evictedSymbols =
        visit.workspace.metrics.evictedSymbols + (visit.made index snapshot).evicted := by
  obtain ⟨request, workspace, now⟩ := visit
  cases request with
  | build options =>
    simp only [outcome, Index.build] at succeeds ⊢
    split at succeeds
    · cases succeeds
    · next snapshot captured =>
      split at succeeds
      · cases succeeds
      · next goes =>
        refine ⟨snapshot, Snapshot.keyed_capture captured, ?_⟩
        simp only [if_neg goes]
        exact ⟨rfl, rfl⟩
  | update paths =>
    simp only [outcome, Index.update] at succeeds ⊢
    split at succeeds
    · next previous ready taken =>
      split at succeeds
      · cases succeeds
      · next records recorded =>
        have keyedBefore : Keyed previous.files := by
          rw [taken] at keyed
          exact keyed
        refine ⟨Snapshot.ofFiles index.root now records [],
          keyed_recordKeys keyedBefore recorded, ?_⟩
        simp only [made, base, isIncremental, if_true, taken]
        exact ⟨rfl, rfl⟩
    · cases succeeds

/-- Files that a change set calls unchanged have the text they had, or could not be read before and
cannot be read now. -/
def Undisturbed (earlier files : FileSystem) (previous current : Snapshot) : Prop :=
  ∀ (path : String) (old new : FileRecord), previous.files[path]? = some old →
    current.files[path]? = some new → Snapshot.classify previous.files path new = .unchanged →
    (earlier.readText old.absolutePath).toOption = (files.readText new.absolutePath).toOption

/-- A project is undisturbed exactly if every unchanged record stands for unchanged text. -/
theorem undisturbed_iff {earlier files : FileSystem} {previous current : Snapshot} :
    Undisturbed earlier files previous current ↔
      ∀ entry ∈ current.files.toList, ∀ old ∈ previous.files[entry.1]?,
        Snapshot.classify previous.files entry.1 entry.2 = .unchanged →
        (earlier.readText old.absolutePath).toOption =
          (files.readText entry.2.absolutePath).toOption := by
  simp only [Prod.forall, Std.ExtTreeMap.mem_toList_iff_getElem?_eq_some, Option.mem_def]
  exact ⟨fun holds path new tracked old before => holds path old new before tracked,
    fun holds path old new before tracked => holds path new tracked old before⟩

instance {earlier files : FileSystem} {previous current : Snapshot} :
    Decidable (Undisturbed earlier files previous current) :=
  decidable_of_iff' _ undisturbed_iff

/-- A pass that succeeds, evicts nothing, meets unchanged files as they were when the pass before
it ran, and tracks no path with a colon. -/
structure Steady (earlier : FileSystem) (index : Index σ) (visit : Visit σ) : Prop where
  succeeds : ∃ stats, (visit.outcome index).result = .ok stats
  undisturbed : ∀ previous ∈ (visit.base index).snapshot,
    ∀ current ∈ (visit.outcome index).index.published.snapshot,
      Undisturbed earlier visit.workspace.files previous current
  noneEvicted : (visit.outcome index).workspace.metrics.evictedSymbols =
    visit.workspace.metrics.evictedSymbols
  colonFree : ∀ current ∈ (visit.outcome index).index.published.snapshot,
    ∀ path ∈ current.files.keys, ColonFree path

end Visit

namespace Index

variable {σ : Type} {start index : Index σ} {files earlier : FileSystem} {visit : Visit σ}

/-- The indexes that runs of steady passes lead to, each with the files that its last pass met. -/
inductive Reached (start : Index σ) (files : FileSystem) : Index σ → FileSystem → Prop where
  | start : Reached start files start files
  | pass {index : Index σ} {earlier : FileSystem} {visit : Visit σ}
      (reached : Reached start files index earlier) (steady : visit.Steady earlier index) :
      Reached start files (visit.outcome index).index visit.workspace.files

/-- A published state holds what the files held that its pass met. -/
def Current (index : Index σ) (earlier : FileSystem) : Prop :=
  (index.context earlier false 0).Reflects index.published

/-- One steady pass over a current state, in the terms of the pass alone. -/
theorem Current.advances (current : index.Current earlier) (steady : visit.Steady earlier index) :
    ∃ snapshot,
      (index.context earlier false 0).Advances
        (index.context visit.workspace.files (visit.isIncremental index) visit.now)
        (visit.base index) snapshot ∧
      (visit.outcome index).index =
        { index with
          published := (visit.made index snapshot).state
          phase := .ready
          announcements := index.announcements + 2 } ∧
      (visit.made index snapshot).evicted = 0 := by
  obtain ⟨stats, succeeds⟩ := steady.succeeds
  obtain ⟨snapshot, keyed, next, counted⟩ := Visit.published_of_ok current.keyed succeeds
  have published : (visit.outcome index).index.published.snapshot = some snapshot := by
    rw [next, Visit.made]
    exact PassContext.snapshot_apply
  have base : (index.context earlier false 0).Reflects (visit.base index) :=
    Visit.holds_base current (PassContext.reflects_empty _) visit
  refine ⟨snapshot, ⟨base, ⟨rfl, rfl⟩, keyed, ?_, ?_, ?_⟩, next, ?_⟩
  · intro path tracked
    exact steady.colonFree snapshot published path (Std.ExtTreeMap.mem_keys.mpr tracked)
  · intro path old new before after unchanged
    cases previous : (visit.base index).snapshot with
    | none =>
      rw [previous] at before
      simp [Snapshot.filesOf] at before
    | some previousSnapshot =>
      have samePath : old.path = new.path :=
        (base.keyed.path_eq before).trans (keyed.path_eq after).symm
      rw [previous] at before unchanged
      exact PassContext.contentOf?_congr ⟨rfl, rfl⟩ samePath
        (steady.undisturbed previousSnapshot previous snapshot published path old new before
          after unchanged)
  · intro full
    have full : visit.isIncremental index = false := full
    rw [Visit.base, full]
    rfl
  · have none := steady.noneEvicted
    rw [counted] at none
    omega

/-- A pass over a steady project keeps an index current. -/
theorem Current.pass (current : index.Current earlier) (steady : visit.Steady earlier index) :
    (visit.outcome index).index.Current visit.workspace.files := by
  obtain ⟨snapshot, advances, next, noneEvicted⟩ := current.advances steady
  have reflects := advances.reflects_apply visit.workspace.provider noneEvicted
  rw [next]
  exact reflects.congr ⟨rfl, rfl⟩ rfl

/-- Every index that is reached by passes over steady projects is current. -/
theorem Reached.current {root : String} {settings : Settings} {parser : FactParser}
    {provider : Option (Provider σ)}
    (created : create files root settings parser provider = .ok start)
    (reached : Reached start files index earlier) : index.Current earlier := by
  induction reached with
  | start =>
    rw [create] at created
    split at created
    · cases created
      exact PassContext.reflects_empty _
    · cases created
  | pass _ steady inductionHypothesis => exact inductionHypothesis.pass steady

/-! ## A run: a build, then an update after one of two files was edited -/

/-- Every text is one function of that name, in a file that imports `./b`. -/
def wordParser : FactParser where
  supports _ := true
  parse _ text := .ok
    { symbols :=
        [{ name := text, kind := .function, startLine := 1, endLine := 1, signature := none }]
      imports := [{ source := "./b", specifiers := [], line := 1 }] }

/-- A project of two files, the first of which is being edited. -/
def editedProject (text : String) (modified : Int) : FileSystem where
  top := .directory
    [("p", .directory [("a.ts", .file text.toUTF8 modified), ("b.ts", .file "g".toUTF8 0)])]

/-- The index of the project before the first pass. -/
def wordIndex : Index Unit where
  root := "/p"
  settings := { indexer := { ignorePatterns := [], checksums := false } }
  parser := wordParser

/-- The index of the fixtures is created. -/
theorem create_wordIndex :
    create (editedProject "f" 0) "/p" wordIndex.settings wordParser none = .ok wordIndex := by
  have root : (editedProject "f" 0).canonical "/p" = .ok "/p" :=
    eq_ok_of_toOption (by decide +kernel)
  rw [create, root]
  rfl

/-- The build of the project. -/
def firstBuild : Visit Unit where
  request := .build {}
  workspace := { files := editedProject "f" 0, provider := () }
  now := 1

/-- The update after the edit. -/
def laterUpdate : Visit Unit where
  request := .update ["a.ts"]
  workspace := { files := editedProject "h2" 5, provider := () }
  now := 2

/-- The first build of the fixtures meets the project as it stands. -/
theorem steady_firstBuild : firstBuild.Steady (editedProject "f" 0) wordIndex where
  succeeds := by
    obtain ⟨stats, succeeds, -⟩ := exists_ok_of_any (show
      (firstBuild.outcome wordIndex).result.toOption.any (fun _ => true) = true by decide +kernel)
    exact ⟨stats, succeeds⟩
  undisturbed := by decide +kernel
  noneEvicted := by decide +kernel
  colonFree := by decide +kernel

/-- The later update of the fixtures meets the project as it stands. -/
theorem steady_laterUpdate :
    laterUpdate.Steady (editedProject "f" 0) (firstBuild.outcome wordIndex).index where
  succeeds := by
    obtain ⟨stats, succeeds, -⟩ := exists_ok_of_any (show
      (laterUpdate.outcome (firstBuild.outcome wordIndex).index).result.toOption.any
        (fun _ => true) = true by decide +kernel)
    exact ⟨stats, succeeds⟩
  undisturbed := by decide +kernel
  noneEvicted := by decide +kernel
  colonFree := by decide +kernel

end Index

end SourceAtlas
