import SourceAtlas.Proofs.Index.Operations
import SourceAtlas.Proofs.Index.Saving

/-!
# The life of an index

An index is created, or opened over a file that an index saved, and then built,
updated, saved, cleared and asked in any order (`Lived`). Between operations it
is never in the middle of a pass, its phase says what is published, and an
operation that fails leaves both phase and contents as they were; only clearing
drops the contents even when it cannot remove the saved ones.
-/

namespace SourceAtlas

namespace Index

/-- The indexes that lives lead to. A life begins with a new index, or with one that is opened: over
no readable saved index, or over the file that another index with a life saved. -/
inductive Lived : {σ : Type} → Index σ → Prop where
  | created {σ : Type} {files : FileSystem} {root : String} {settings : Settings}
      {parser : FactParser} {provider : Option (Provider σ)} {index : Index σ}
      (created : create files root settings parser provider = .ok index) : Lived index
  | opened {σ : Type} {workspace after : Workspace σ} {root : String} {settings : Settings}
      {parser : FactParser} {provider : Option (Provider σ)} {index : Index σ}
      (opened : openSaved workspace root settings parser provider = .ok (index, after))
      (unreadable : savedState? workspace.files index.savePath = none) : Lived index
  | reopened {σ τ : Type} {writer : Index τ} {files : FileSystem} {savedAt : Int}
      {workspace after : Workspace σ} {root : String} {settings : Settings} {parser : FactParser}
      {provider : Option (Provider σ)} {index : Index σ} (lived : Lived writer)
      (saved : (writer.save files savedAt).1 = .ok ())
      (opened : openSaved workspace root settings parser provider = .ok (index, after))
      (written : workspace.files.readText index.savePath =
        .ok (SavedIndex.ofState writer.published).render) : Lived index
  | after {σ : Type} {index : Index σ} (lived : Lived index) (operation : Operation σ) :
      Lived (operation.after index)

variable {σ : Type} {index : Index σ}

/-- The phase says what is published: a snapshot when the index is ready, nothing when it is empty
or cleared, and no pass is under way. -/
structure WellPhased (index : Index σ) : Prop where
  phase : index.phase = .empty ∨ index.phase = .ready ∨ index.phase = .cleared
  ready : index.phase = .ready → index.published.snapshot.isSome
  blank : index.phase = .empty ∨ index.phase = .cleared → index.published = .empty

/-- An index that publishes nothing is empty or cleared. -/
theorem wellPhased_of_blank (phase : index.phase = .empty ∨ index.phase = .cleared)
    (published : index.published = .empty) : index.WellPhased where
  phase := phase.elim .inl fun cleared => .inr (.inr cleared)
  ready ready := by
    rw [ready] at phase
    simp at phase
  blank _ := published

/-- An index that publishes a snapshot is ready. -/
theorem wellPhased_of_ready (phase : index.phase = .ready)
    (taken : index.published.snapshot.isSome) : index.WellPhased where
  phase := .inr (.inl phase)
  ready _ := taken
  blank blank := by
    rw [phase] at blank
    simp at blank

section

variable {workspace after : Workspace σ} {root : String} {settings : Settings}
  {parser : FactParser} {provider : Option (Provider σ)}

/-- A created index is empty and publishes nothing. -/
theorem blank_of_create {files : FileSystem}
    (created : create files root settings parser provider = .ok index) :
    index.phase = .empty ∧ index.published = .empty := by
  rw [create] at created
  split at created
  · cases created
    exact ⟨rfl, rfl⟩
  · cases created

/-- An index is opened wherever its directory is found. -/
theorem exists_openSaved {canonical : String}
    (found : workspace.files.canonical root = .ok canonical) (settings : Settings)
    (parser : FactParser) (provider : Option (Provider σ)) :
    ∃ index after, openSaved workspace root settings parser provider = .ok (index, after) ∧
      index.root = canonical := by
  have created : create workspace.files root settings parser provider =
      .ok { root := canonical, settings, parser, provider } := by rw [create, found]
  rw [openSaved, created]
  simp only [bind, Except.bind]
  split
  · exact ⟨_, _, rfl, rfl⟩
  · exact ⟨_, _, rfl, rfl⟩

/-- What an index is opened with where its directory is found and its saved index is read. -/
theorem openSaved_of_loads {canonical : String} {state : IndexState}
    (found : workspace.files.canonical root = .ok canonical)
    (loads : savedState? workspace.files (Settings.indexPath canonical) = some state)
    (settings : Settings) (parser : FactParser) (provider : Option (Provider σ)) :
    ∃ after, openSaved workspace root settings parser provider =
      .ok ({ root := canonical, settings, parser, provider, published := state, phase := .ready
             announcements := 1 }, after) := by
  have created : create workspace.files root settings parser provider =
      .ok { root := canonical, settings, parser, provider } := by rw [create, found]
  rw [openSaved, created]
  simp only [bind, Except.bind, savePath, loads]
  exact ⟨_, rfl⟩

/-- An opened index is ready with what was saved, or empty when nothing could be read. -/
theorem openSaved_cases
    (opened : openSaved workspace root settings parser provider = .ok (index, after)) :
    (index.phase = .ready ∧
        savedState? workspace.files index.savePath = some index.published) ∨
      (index.phase = .empty ∧ index.published = .empty ∧
        savedState? workspace.files index.savePath = none) := by
  obtain ⟨start, created, opened⟩ := bind_eq_ok_iff.mp opened
  split at opened
  · next state found =>
    cases opened
    exact .inl ⟨rfl, found⟩
  · next none =>
    cases opened
    obtain ⟨phase, published⟩ := blank_of_create created
    exact .inr ⟨phase, published, none⟩

end

/-- The state in a file that an index saved has a snapshot. -/
theorem isSome_snapshot_of_written {files : FileSystem} {path : String} {state read : IndexState}
    (written : files.readText path = .ok (SavedIndex.ofState state).render)
    (taken : state.snapshot.isSome) (found : savedState? files path = some read) :
    read.snapshot.isSome := by
  rw [savedState?, written] at found
  obtain ⟨saved, parsed, rfl⟩ := Option.map_eq_some_iff.mp found
  exact SavedIndex.isSome_snapshot_of_parse? parsed (by simpa [SavedIndex.ofState] using taken)

/-- A pass keeps phase and contents in step. -/
theorem WellPhased.pass (wellPhased : index.WellPhased) (visit : Visit σ) :
    (visit.outcome index).index.WellPhased := by
  obtain ⟨-, phase, published⟩ | ⟨-, phase, taken⟩ := visit.outcome_cases index
  · exact ⟨phase ▸ wellPhased.phase, fun ready => published ▸ wellPhased.ready (phase ▸ ready),
      fun blank => published.trans (wellPhased.blank (phase ▸ blank))⟩
  · exact wellPhased_of_ready phase taken

/-- A cleared index is in the cleared phase. -/
theorem phase_clear (index : Index σ) (workspace : Workspace σ) :
    (index.clear workspace).2.1.phase = .cleared := by
  simp only [clear, publish]
  split <;> rfl

/-- An index refuses queries exactly if it is not ready. -/
theorem WellPhased.isQueryable_eq_false_iff (wellPhased : index.WellPhased) :
    index.phase.isQueryable = false ↔ index.phase ≠ .ready := by
  rcases wellPhased.phase with phase | phase | phase <;> simp [phase, IndexPhase.isQueryable]

/-- An operation keeps phase and contents in step. -/
theorem WellPhased.after (wellPhased : index.WellPhased) (operation : Operation σ) :
    (operation.after index).WellPhased := by
  cases operation with
  | pass visit => exact wellPhased.pass visit
  | save files now => exact wellPhased
  | clear workspace =>
    exact wellPhased_of_blank (.inr (phase_clear index workspace)) (published_clear index workspace)
  | ask query workspace now =>
    by_cases ready : index.phase = .ready
    · obtain ⟨embeddings, after⟩ := query.after_eq index workspace now
      rw [Operation.after, after]
      exact wellPhased_of_ready ready (wellPhased.ready ready)
    · have refused := (query.answer_eq_notReady_iff index workspace now query.name index.phase).mpr
        ⟨wellPhased.isQueryable_eq_false_iff.mpr ready, rfl, rfl⟩
      rw [Operation.after, Query.after_of_error refused]
      exact wellPhased

/-- Every live index has its phase and its contents in step. -/
theorem Lived.wellPhased (lived : index.Lived) : index.WellPhased := by
  induction lived with
  | created created =>
    obtain ⟨phase, published⟩ := blank_of_create created
    exact wellPhased_of_blank (.inl phase) published
  | opened opened unreadable =>
    obtain ⟨-, found⟩ | ⟨phase, published, -⟩ := openSaved_cases opened
    · rw [unreadable] at found
      cases found
    · exact wellPhased_of_blank (.inl phase) published
  | reopened lived saved opened written _ =>
    obtain ⟨phase, found⟩ | ⟨phase, published, -⟩ := openSaved_cases opened
    · -- Only an index with a snapshot is saved, so what is read has one.
      exact wellPhased_of_ready phase
        (isSome_snapshot_of_written written (isSome_snapshot_of_save saved) found)
    · exact wellPhased_of_blank (.inl phase) published
  | after lived operation inductionHypothesis => exact inductionHypothesis.after operation

/-- An operation that fails leaves the phase and the contents, unless it was to drop them. -/
theorem after_of_failed {operation : Operation σ} {error : IndexError}
    (failed : operation.result index = .error error) (keeps : operation.clears = false) :
    (operation.after index).phase = index.phase ∧
      (operation.after index).published = index.published := by
  cases operation with
  | pass visit =>
    obtain ⟨-, phase, published⟩ | ⟨⟨stats, succeeded⟩, -⟩ := visit.outcome_cases index
    · exact ⟨phase, published⟩
    · rw [Operation.result, succeeded] at failed
      cases failed
  | save files now => exact ⟨rfl, rfl⟩
  | clear workspace => cases keeps
  | ask query workspace now =>
    rw [Operation.result] at failed
    cases answered : query.answer index workspace now with
    | ok answer =>
      rw [answered] at failed
      cases failed
    | error refused =>
      rw [Operation.after, Query.after_of_error answered]
      exact ⟨rfl, rfl⟩

/-- Throughout the life of an index its phase says what is published, queries are refused exactly
while it is not ready, and an operation that fails leaves phase and contents, unless it was to drop
them. -/
theorem Lived.phase_settled (lived : index.Lived) :
    index.WellPhased ∧
      (∀ (query : Query) (workspace : Workspace σ) (now : Int) (operation : String)
        (phase : IndexPhase),
        query.answer index workspace now = .error (.notReady operation phase) ↔
          index.phase ≠ .ready ∧ operation = query.name ∧ phase = index.phase) ∧
      ∀ (operation : Operation σ) (error : IndexError), operation.clears = false →
        operation.result index = .error error →
          (operation.after index).phase = index.phase ∧
            (operation.after index).published = index.published := by
  have wellPhased := lived.wellPhased
  refine ⟨wellPhased, fun query workspace now operation phase => ?_, fun _ _ keeps failed =>
    after_of_failed failed keeps⟩
  rw [query.answer_eq_notReady_iff, wellPhased.isQueryable_eq_false_iff]

/-! ## A build, a save, a restart and a build that is stopped -/

/-- The index after its first build. -/
def builtIndex : Index Unit := (firstBuild.outcome wordIndex).index

/-- The project after the index was saved beside it. -/
def savedProject : FileSystem := (builtIndex.save (editedProject "f" 0) 2).2

/-- A forced build that is stopped. -/
def stoppedBuild : Visit Unit where
  request := .build { force := true, cancelled := true }
  workspace := { files := editedProject "h2" 5, provider := () }
  now := 3

/-- The built index of the fixtures is saved. -/
theorem save_builtIndex : builtIndex.save (editedProject "f" 0) 2 = (.ok (), savedProject) :=
  Prod.ext (eq_ok_of_toOption (by decide +kernel)) rfl

/-- The project of the fixtures has room for a saved index. -/
theorem savesPlainly_editedProject : (editedProject "f" 0).SavesPlainly "/p" where
  sound := by decide +kernel
  canonical := eq_ok_of_toOption (by decide +kernel)
  directory := by decide +kernel
  plain := by decide +kernel
  plainTemporary := by decide +kernel

/-- The stopped build fails, and what was published stays; so it is with the index that is opened
over what was saved. -/
theorem stoppedBuild_keeps :
    builtIndex.phase = .ready ∧
      (stoppedBuild.outcome builtIndex).result = .error .cancelled ∧
      (stoppedBuild.outcome builtIndex).index.phase = .ready ∧
      (stoppedBuild.outcome builtIndex).index.published = builtIndex.published ∧
      ∃ reopened after, openSaved { files := savedProject, provider := () } "/p"
          wordIndex.settings wordParser none = .ok (reopened, after) ∧ reopened.WellPhased := by
  have lived : builtIndex.Lived := (Lived.created create_wordIndex).after (.pass firstBuild)
  have ready : builtIndex.phase = .ready := by decide +kernel
  have failed : (stoppedBuild.outcome builtIndex).result = .error .cancelled := by
    obtain ⟨snapshot, captured, -⟩ := exists_ok_of_any (show
      (Snapshot.capture stoppedBuild.workspace.files builtIndex.root builtIndex.captureOptions
        3).toOption.any (fun _ => true) = true by decide +kernel)
    rw [stoppedBuild] at captured ⊢
    simp only [Visit.outcome, build, captured]
    rfl
  obtain ⟨phase, published⟩ := lived.phase_settled.2.2 (.pass stoppedBuild) .cancelled rfl
    (by rw [Operation.result, failed]; rfl)
  refine ⟨ready, failed, phase.trans ready, published, ?_⟩
  have root : savedProject.canonical "/p" = .ok "/p" := eq_ok_of_toOption (by decide +kernel)
  obtain ⟨reopened, after, opened, same⟩ := exists_openSaved
    (show (Workspace.mk savedProject () {}).files.canonical "/p" = .ok "/p" from root)
    wordIndex.settings wordParser none
  have written : savedProject.readText reopened.savePath =
      .ok (SavedIndex.ofState builtIndex.published).render := by
    have standing : builtIndex.root = "/p" := (Operation.pass firstBuild).root_after wordIndex
    rw [savePath, same, ← standing]
    exact readText_of_save (standing ▸ savesPlainly_editedProject) save_builtIndex
  have again := lived.reopened (congrArg Prod.fst save_builtIndex) opened written
  exact ⟨reopened, after, opened, again.phase_settled.1⟩

end Index

end SourceAtlas
