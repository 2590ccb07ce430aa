import SourceAtlas.Proofs.Embedding.Eviction
import SourceAtlas.Proofs.Index.Lifecycle

/-!
# The memory budget over the life of an index

A pass ends with an eviction, unless it starts from published contents and finds
nothing changed: then it publishes what was there, whatever that takes. Between
two such passes only an index that is opened can come over its budget, when what
was saved takes more than the settings of today allow.
-/

namespace SourceAtlas

/-- The pass started from published contents and found nothing changed. -/
def PassStats.Idle (stats : PassStats) : Prop :=
  stats.incremental = true ∧ stats.changes.added = 0 ∧ stats.changes.modified = 0 ∧
    stats.changes.deleted = 0

instance (stats : PassStats) : Decidable stats.Idle := inferInstanceAs (Decidable (_ ∧ _))

/-- A change set is empty exactly if it counts no change. -/
theorem ChangeSet.isEmpty_iff (changes : ChangeSet) :
    changes.isEmpty = true ↔
      changes.counts.added = 0 ∧ changes.counts.modified = 0 ∧ changes.counts.deleted = 0 := by
  simp [isEmpty, counts, and_assoc]

namespace PassContext

variable {σ : Type} {context : PassContext σ} {base : IndexState} {snapshot : Snapshot}
  {changes : ChangeSet}

/-- Before the purge of a pass every symbol is under its own id. -/
theorem identified_unpurged (identified : base.symbols.Identified) (provider : σ) :
    (context.unpurged base changes provider).1.Identified :=
  holds_unpurged identified (fun _ path identified => identified.removeFile path)
    (fun _ file _ identified => identified.replaceFile file.path file.symbols context.now) provider

/-- A pass leaves every symbol under its own id. -/
theorem identified_apply (identified : base.symbols.Identified) (provider : σ) :
    (context.apply base snapshot changes provider).state.symbols.Identified := by
  rw [apply]
  split
  next => exact identified
  next =>
    have settled : (context.settle (context.unpurged base changes provider)).1.Identified :=
      MemoryBudget.identified_enforceFrom (identified_unpurged identified provider) _ _
    exact settled

/-- Whether a pass was idle can be told from its figures. -/
theorem idle_apply_iff (provider : σ) :
    (context.apply base snapshot changes provider).state.stats.Idle ↔
      (context.incremental && changes.isEmpty) = true := by
  rw [Bool.and_eq_true, ChangeSet.isEmpty_iff, apply]
  split
  next unchanged =>
    rw [Bool.and_eq_true] at unchanged
    simp [keep, PassStats.Idle, unchanged.1]
  next => rfl

end PassContext

namespace Query

variable {σ : Type}

/-- A query takes no memory. -/
theorem memoryBytes_after (query : Query) (index : Index σ) (workspace : Workspace σ)
    (now : Int) :
    (query.after index workspace now).published.memoryBytes = index.published.memoryBytes := by
  cases query with
  | search text limit =>
    simp only [after, Index.search]
    split
    next => rfl
    next => rfl
    next state provider ready _ =>
      obtain rfl := Index.eq_published_of_readyState ready
      split
      next => rfl
      next =>
        split
        next => rfl
        next vector _ => exact EmbeddingCache.estimatedBytes_search vector _ limit now
  | _ => rfl

end Query

namespace Index

variable {σ : Type} {index start : Index σ}

/-- The budget of the settings. -/
def budget (index : Index σ) : MemoryBudget :=
  .ofMegabytes index.settings.embeddings.maxMemory

/-- The published state takes no more memory than the high water mark, or has no symbols. -/
def WithinBudget (index : Index σ) : Prop :=
  index.published.memoryBytes ≤ index.budget.highWater ∨ index.published.symbols.size = 0

instance (index : Index σ) : Decidable index.WithinBudget := inferInstanceAs (Decidable (_ ∨ _))

/-- An index is within its budget exactly if the budget holds of what it publishes. -/
theorem withinBudget_iff_holds :
    index.WithinBudget ↔ index.budget.Holds index.published.contents := .rfl

/-- An index that publishes nothing is within its budget. -/
theorem withinBudget_of_blank (blank : index.published = .empty) : index.WithinBudget := by
  rw [WithinBudget, blank]
  exact .inr rfl

/-- No operation changes the budget. -/
theorem budget_after (operation : Operation σ) (index : Index σ) :
    (operation.after index).budget = index.budget := by
  rw [budget, operation.settings_after, budget]

/-! ## One pass -/

/-- A visit starts from symbols under their own ids. -/
theorem identified_base (identified : index.published.symbols.Identified) (visit : Visit σ) :
    (visit.base index).symbols.Identified :=
  Visit.holds_base (motive := fun state => state.symbols.Identified) identified
    SymbolTable.identified_empty visit

/-- A pass that was not idle made what fits, and an idle one made what was there. -/
theorem holds_made_iff (identified : index.published.symbols.Identified) (visit : Visit σ)
    (snapshot : Snapshot) :
    index.budget.Holds (visit.made index snapshot).state.contents ↔
      ((visit.made index snapshot).state.stats.Idle → index.WithinBudget) := by
  have told : (visit.made index snapshot).state.stats.Idle ↔
      (visit.isIncremental index && (visit.changes index snapshot).isEmpty) = true :=
    PassContext.idle_apply_iff visit.workspace.provider
  rw [told, visit.contents_made, withinBudget_iff_holds]
  split
  next idle =>
    have base : visit.base index = index.published := if_pos (Bool.and_eq_true_iff.mp idle).1
    rw [base, forall_prop_of_true idle]
  next busy =>
    have made : (visit.unpurged index snapshot).1.Identified :=
      PassContext.identified_unpurged (identified_base identified visit) _
    exact iff_of_true (MemoryBudget.holds_enforce index.budget made) fun idle => absurd idle busy

/-- An operation leaves every published symbol under its own id. -/
theorem identified_after (identified : index.published.symbols.Identified)
    (operation : Operation σ) : (operation.after index).published.symbols.Identified := by
  cases operation with
  | pass visit =>
    obtain ⟨-, -, same⟩ | ⟨snapshot, -, -, made⟩ := visit.outcome_made index
    · rw [Operation.after, same]
      exact identified
    · rw [Operation.after, made]
      exact PassContext.identified_apply (identified_base identified visit) _
  | save files now => exact identified
  | clear workspace =>
    rw [Operation.after, published_clear]
    exact SymbolTable.identified_empty
  | ask query workspace now =>
    obtain ⟨embeddings, after⟩ := query.after_eq index workspace now
    rw [Operation.after, after]
    exact identified

/-- The symbols of a live index stand under their identifiers. -/
theorem Lived.identified (lived : index.Lived) : index.published.symbols.Identified := by
  induction lived with
  | created created =>
    rw [(blank_of_create created).2]
    exact SymbolTable.identified_empty
  | opened opened unreadable =>
    obtain ⟨-, found⟩ | ⟨-, published, -⟩ := openSaved_cases opened
    · rw [unreadable] at found
      cases found
    · rw [published]
      exact SymbolTable.identified_empty
  | reopened _ _ opened written _ =>
    obtain ⟨-, found⟩ | ⟨-, published, -⟩ := openSaved_cases opened
    · rw [savedState?, written] at found
      obtain ⟨saved, -, state⟩ := Option.map_eq_some_iff.mp found
      rw [← state]
      exact SymbolTable.identified_ofSymbols saved.symbols saved.symbolsUpdated
    · rw [published]
      exact SymbolTable.identified_empty
  | after _ operation inductionHypothesis => exact identified_after inductionHypothesis operation

/-! ## Runs of operations -/

/-- After a pass that succeeds the index is within its budget, unless the pass was idle and the
index was not within it before. -/
theorem withinBudget_outcome_iff (identified : index.published.symbols.Identified)
    {visit : Visit σ} {stats : PassStats} (succeeds : (visit.outcome index).result = .ok stats) :
    (visit.outcome index).index.WithinBudget ↔ (stats.Idle → index.WithinBudget) := by
  obtain ⟨⟨error, failed⟩, -⟩ | ⟨snapshot, answered, -, made⟩ := visit.outcome_made index
  · rw [failed] at succeeds
    cases succeeds
  · obtain rfl := Except.ok.inj (answered.symm.trans succeeds)
    rw [withinBudget_iff_holds, show (visit.outcome index).index.budget = index.budget from
      budget_after (.pass visit) index, made]
    exact holds_made_iff identified visit snapshot

end Index

/-- The operation clears the index, or is a pass that succeeds and is not idle. -/
def Operation.Renews {σ : Type} (operation : Operation σ) (index : Index σ) : Prop :=
  match operation with
  | pass visit => ∃ stats, (visit.outcome index).result = .ok stats ∧ ¬stats.Idle
  | clear _ => True
  | save .. | ask .. => False

namespace Index

variable {σ : Type} {index start : Index σ}

/-- An index comes within its budget by an operation that renews it, and stays there by all
others. -/
theorem withinBudget_after_iff (identified : index.published.symbols.Identified)
    (operation : Operation σ) :
    (operation.after index).WithinBudget ↔ index.WithinBudget ∨ operation.Renews index := by
  cases operation with
  | pass visit =>
    obtain ⟨⟨error, failed⟩, -, same⟩ | ⟨snapshot, succeeds, -⟩ := visit.outcome_made index
    · have budget := budget_after (.pass visit) index
      rw [WithinBudget, budget, Operation.after, same]
      simp [Operation.Renews, failed, WithinBudget]
    · rw [Operation.after, withinBudget_outcome_iff identified succeeds]
      simp only [Operation.Renews, succeeds, Except.ok.injEq, exists_eq_left']
      tauto
  | save files now => simp [Operation.after, Operation.Renews]
  | clear workspace =>
    exact iff_of_true (withinBudget_of_blank (published_clear index workspace)) (.inr trivial)
  | ask query workspace now =>
    have budget := budget_after (.ask query workspace now) index
    obtain ⟨embeddings, after⟩ := query.after_eq index workspace now
    have symbols : (query.after index workspace now).published.symbols =
        index.published.symbols := by rw [after]
    rw [WithinBudget, budget, Operation.after, query.memoryBytes_after, symbols]
    simp [Operation.Renews, WithinBudget]

/-- The index after operations that were done one after the other. -/
def afterOperations (index : Index σ) (operations : List (Operation σ)) : Index σ :=
  operations.foldl (fun index operation => operation.after index) index

/-- Some operation of the run renews the index. -/
def RenewedBy (index : Index σ) : List (Operation σ) → Prop
  | [] => False
  | operation :: rest => operation.Renews index ∨ (operation.after index).RenewedBy rest

/-- Any operations leave every published symbol under its own id. -/
theorem identified_afterOperations (identified : index.published.symbols.Identified)
    (operations : List (Operation σ)) :
    (index.afterOperations operations).published.symbols.Identified :=
  List.foldlRecOn operations _
    (motive := fun (index : Index σ) => index.published.symbols.Identified) identified
    fun _ identified operation _ => identified_after identified operation

/-- After any operations an index is within its budget exactly if it was before or was renewed
since. -/
theorem withinBudget_afterOperations_iff (identified : index.published.symbols.Identified)
    (operations : List (Operation σ)) :
    (index.afterOperations operations).WithinBudget ↔
      index.WithinBudget ∨ index.RenewedBy operations := by
  induction operations generalizing index with
  | nil => simp [afterOperations, RenewedBy]
  | cons operation rest inductionHypothesis =>
    have later := inductionHypothesis (identified_after identified operation)
    rw [withinBudget_after_iff identified, or_assoc] at later
    exact later

/-- From when an index is created or opened, a pass that succeeds ends within the memory budget
exactly when it was not idle, the index began within the budget (as one without contents does), or
an operation in between renewed it. -/
theorem Lived.withinBudget_iff (lived : start.Lived) (operations : List (Operation σ))
    {visit : Visit σ} {stats : PassStats}
    (succeeds : (visit.outcome (start.afterOperations operations)).result = .ok stats) :
    (visit.outcome (start.afterOperations operations)).index.WithinBudget ↔
      ¬stats.Idle ∨ start.WithinBudget ∨ start.RenewedBy operations := by
  have identified := identified_afterOperations lived.identified operations
  rw [withinBudget_outcome_iff identified succeeds,
    withinBudget_afterOperations_iff lived.identified]
  exact imp_iff_not_or

/-! ## A saved index that is opened with less memory allowed -/

/-- Settings that allow no memory at all. -/
def tightSettings : Settings :=
  { wordIndex.settings with
    embeddings := { wordIndex.settings.embeddings with maxMemory := 0 } }

/-- The saved index of the project, opened with these settings. -/
def tightIndex : Index Unit where
  root := "/p"
  settings := tightSettings
  parser := wordParser
  published := (SavedIndex.ofState builtIndex.published).toState
  phase := .ready
  announcements := 1

/-- A build of the project as it stands after the save. -/
def savedBuild (force : Bool) : Visit Unit where
  request := .build { force }
  workspace := { files := savedProject, provider := () }
  now := 3

/-- The index of the example comes about by operations. -/
theorem lived_tightIndex : tightIndex.Lived := by
  have standing : builtIndex.root = "/p" := (Operation.pass firstBuild).root_after wordIndex
  have path : builtIndex.savePath = Settings.indexPath "/p" := by rw [savePath, standing]
  have written : savedProject.readText (Settings.indexPath "/p") =
      .ok (SavedIndex.ofState builtIndex.published).render :=
    path ▸ readText_of_save (standing ▸ savesPlainly_editedProject) save_builtIndex
  -- One evaluation of the project for all that is asked of it.
  have checked : (SavedIndex.ofState builtIndex.published).Fits ∧
      (SavedIndex.ofState builtIndex.published).IsFinite ∧
      (SavedIndex.ofState builtIndex.published).FloatsRecover ∧
      (savedProject.canonical "/p").toOption = some "/p" := by decide +kernel
  obtain ⟨fits, finite, floats, found⟩ := checked
  have loads : savedState? savedProject (Settings.indexPath "/p") =
      some (SavedIndex.ofState builtIndex.published).toState := by
    rw [savedState?, written]
    exact fits.load finite floats
  have lived : builtIndex.Lived := (Lived.created create_wordIndex).after (.pass firstBuild)
  obtain ⟨after, opened⟩ := openSaved_of_loads
    (show (Workspace.mk savedProject () {}).files.canonical "/p" = .ok "/p" from
      eq_ok_of_toOption found) loads tightSettings wordParser none
  exact lived.reopened (congrArg Prod.fst save_builtIndex) opened written

/-- A build from scratch brings the index within its budget, after one that found nothing changed
and left it as it was. -/
theorem savedBuild_withinBudget :
    ∃ stats, ((savedBuild true).outcome
        (tightIndex.afterOperations [.pass (savedBuild false)])).result = .ok stats ∧
      ¬stats.Idle ∧
      ((savedBuild true).outcome
        (tightIndex.afterOperations [.pass (savedBuild false)])).index.WithinBudget := by
  obtain ⟨stats, succeeds, busy⟩ := exists_ok_of_any (show
    (((savedBuild true).outcome (tightIndex.afterOperations
      [.pass (savedBuild false)])).result.toOption.any fun stats => !decide stats.Idle) = true by
        decide +kernel)
  have renewed : ¬stats.Idle := by simpa using busy
  have within := lived_tightIndex.withinBudget_iff [.pass (savedBuild false)] succeeds
  exact ⟨stats, succeeds, renewed, within.mpr (.inl renewed)⟩

/-- The build that finds nothing changed succeeds and keeps the symbols, though no memory is allowed
for them. -/
theorem savedBuild_exceeds :
    tightIndex.Lived ∧
      ∃ stats, ((savedBuild false).outcome tightIndex).result = .ok stats ∧ stats.Idle ∧
        tightIndex.budget.highWater = 0 ∧
        ((savedBuild false).outcome tightIndex).index.published.symbols.size = 2 ∧
        ¬((savedBuild false).outcome tightIndex).index.WithinBudget := by
  have checked : (((savedBuild false).outcome tightIndex).result.toOption.any fun stats =>
        decide stats.Idle) = true ∧
      tightIndex.budget.highWater = 0 ∧
      ((savedBuild false).outcome tightIndex).index.published.symbols.size = 2 ∧
      ¬((savedBuild false).outcome tightIndex).index.WithinBudget := by decide +kernel
  obtain ⟨answered, none, symbols, exceeds⟩ := checked
  obtain ⟨stats, succeeds, idle⟩ := exists_ok_of_any answered
  exact ⟨lived_tightIndex, stats, succeeds, of_decide_eq_true idle, none, symbols, exceeds⟩

end Index

end SourceAtlas
