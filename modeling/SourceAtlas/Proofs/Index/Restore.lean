import SourceAtlas.Proofs.Index.Lifecycle

/-!
# Indexes that come back

As long as no identifier is shared between files, the look-up maps of every
published table are projections of its symbols (`Unmixed.indexed`). Such an index
is loaded as it was saved, and an index that is opened over the file answers
every run of queries like the one that was saved.
-/

namespace SourceAtlas

namespace SymbolTable

variable {table : SymbolTable}

/-- Removing files keeps the table indexed. -/
theorem Indexed.foldl_removeFile (indexed : table.Indexed) (paths : List String) :
    (paths.foldl SymbolTable.removeFile table).Indexed := by
  induction paths generalizing table with
  | nil => exact indexed
  | cons first rest inductionHypothesis => exact inductionHypothesis (indexed.removeFile first)

/-- Dropping files keeps the symbols of the other files. -/
theorem Indexed.symbols_foldl_removeFile (indexed : table.Indexed) (paths : List String)
    (id : String) :
    (paths.foldl SymbolTable.removeFile table).symbols[id]? =
      (table.symbols[id]?).filter fun symbol => symbol.file ∉ paths := by
  induction paths generalizing table with
  | nil =>
    rw [List.foldl_nil]
    cases table.symbols[id]? <;> simp [Option.filter_some]
  | cons first rest inductionHypothesis =>
    rw [List.foldl_cons, inductionHypothesis (indexed.removeFile first),
      indexed.symbols_removeFile]
    cases table.symbols[id]? with
    | none => rfl
    | some symbol => by_cases same : symbol.file = first <;> simp [Option.filter_some, same]

/-- Files are stored one after the other without a word about the others, as long as no two of them
share an identifier and none shares one with the files that are stored already. -/
theorem Indexed.foldl_replaceFile {files : List ParsedFile} (indexed : table.Indexed)
    (own : ∀ file ∈ files, ∀ symbol ∈ file.symbols, symbol.file = file.path)
    (apart : ∀ first ∈ files, ∀ second ∈ files, ∀ symbol ∈ first.symbols,
      ∀ other ∈ second.symbols, symbol.id = other.id → symbol.file = other.file)
    (admitted : ∀ file ∈ files, table.Admits file.path file.symbols) (now : Int) :
    (files.foldl (fun table file => table.replaceFile file.path file.symbols now)
      table).Indexed := by
  induction files generalizing table with
  | nil => exact indexed
  | cons first rest inductionHypothesis =>
    refine inductionHypothesis (indexed.replaceFile (admitted first (.head _)) now)
      (fun file member => own file (.tail _ member))
      (fun one member other member' => apart one (.tail _ member) other (.tail _ member')) ?_
    -- What a later file meets is either new from the first one or was there before.
    intro file member symbol inside stored found
    rw [indexed.symbols_replaceFile] at found
    rcases Option.or_eq_some_iff.mp found with new | ⟨-, old⟩
    · have same : stored.id = symbol.id := by simpa using List.find?_some new
      have shared := apart first (.head _) file (.tail _ member) stored
        (List.mem_of_find?_eq_some new) symbol inside same
      rw [shared, own file (.tail _ member) symbol inside]
    · exact admitted file (.tail _ member) symbol inside stored (Option.filter_eq_some_iff.mp old).1

end SymbolTable

/-- Evicted symbols leave all look-up maps. -/
theorem MemoryBudget.indexed_enforceFrom {symbols : SymbolTable} (indexed : symbols.Indexed)
    (highWater fuel : Nat) (cache : EmbeddingCache) :
    (enforceFrom highWater fuel symbols cache).2.1.Indexed := by
  induction fuel generalizing symbols cache with
  | zero => exact indexed
  | succ fuel inductionHypothesis =>
    rw [enforceFrom]
    split
    · exact indexed
    · refine inductionHypothesis ?_ _
      refine List.foldlRecOn (motive := SymbolTable.Indexed) _ SymbolTable.removeSymbol indexed ?_
      intro table indexed id _
      exact indexed.removeSymbol id

namespace PassContext

variable {σ : Type} {context : PassContext σ} {base : IndexState} {changes : ChangeSet}

/-- No identifier is shared between files in a pass: neither between two files that it parses, nor
between one of these and a file whose symbols it keeps. -/
@[mk_iff]
structure Unshared (context : PassContext σ) (base : IndexState) (changes : ChangeSet) : Prop where
  parsed : ∀ first ∈ context.parsedFiles changes, ∀ second ∈ context.parsedFiles changes,
    ∀ symbol ∈ first.symbols, ∀ other ∈ second.symbols,
      symbol.id = other.id → symbol.file = other.file
  kept : ∀ file ∈ context.parsedFiles changes, ∀ symbol ∈ file.symbols,
    ∀ stored ∈ base.symbols.symbols[symbol.id]?,
      stored.file ∉ dropped changes (context.parsedFiles changes) → stored.file = symbol.file

instance (context : PassContext σ) (base : IndexState) (changes : ChangeSet) :
    Decidable (context.Unshared base changes) :=
  decidable_of_iff _ (unshared_iff context base changes).symm

/-- The symbols of a parsed file carry its path. -/
theorem file_of_mem_parsedFiles {file : ParsedFile} (member : file ∈ context.parsedFiles changes) :
    ∀ symbol ∈ file.symbols, symbol.file = file.path := by
  obtain ⟨record, -, parsed⟩ := mem_splitOutcomes.mp member
  rw [parseFile] at parsed
  split at parsed
  · cases parsed
  · split at parsed
    · cases parsed
    · cases parsed
      intro symbol inside
      obtain ⟨fact, -, rfl⟩ := List.mem_map.mp inside
      rfl

/-- Before the purge the table is indexed, if no two files share an id. -/
theorem indexed_unpurged (indexed : base.symbols.Indexed)
    (unshared : context.Unshared base changes) (provider : σ) :
    (context.unpurged base changes provider).1.Indexed := by
  rw [symbols_unpurged]
  refine (indexed.foldl_removeFile _).foldl_replaceFile
    (fun file member => file_of_mem_parsedFiles member) unshared.parsed ?_ context.now
  intro file member symbol inside stored found
  rw [indexed.symbols_foldl_removeFile] at found
  obtain ⟨earlier, left⟩ := Option.filter_eq_some_iff.mp found
  rw [← file_of_mem_parsedFiles member symbol inside]
  exact unshared.kept file member symbol inside stored earlier (by simpa using left)

/-- A pass leaves the table indexed, if no two files share an id. -/
theorem indexed_apply (indexed : base.symbols.Indexed) (unshared : context.Unshared base changes)
    (snapshot : Snapshot) (provider : σ) :
    (context.apply base snapshot changes provider).state.symbols.Indexed := by
  rw [apply]
  split
  · exact indexed
  · exact MemoryBudget.indexed_enforceFrom (indexed_unpurged indexed unshared provider) _ _ _

end PassContext

/-- No identifier is shared between files in the pass of a request that succeeds. -/
def Visit.Unshared {σ : Type} (visit : Visit σ) (index : Index σ) : Prop :=
  ∀ stats snapshot, (visit.outcome index).result = .ok stats →
    (visit.outcome index).index.published.snapshot = some snapshot →
      (visit.context index).Unshared (visit.base index) (visit.changes index snapshot)

/-- No identifier is shared between files when a pass is run. -/
def Operation.Unshared {σ : Type} (operation : Operation σ) (index : Index σ) : Prop :=
  match operation with
  | .pass visit => visit.Unshared index
  | _ => True

namespace Index

variable {σ : Type} {index : Index σ}

/-- The indexes that are created and then built, updated, saved, cleared and asked in any order, in
passes that share no identifier between files. -/
inductive Unmixed : Index σ → Prop where
  | created {files : FileSystem} {root : String} {settings : Settings} {parser : FactParser}
      {provider : Option (Provider σ)} {index : Index σ}
      (created : create files root settings parser provider = .ok index) : Unmixed index
  | after {index : Index σ} (unmixed : Unmixed index) (operation : Operation σ)
      (unshared : operation.Unshared index) : Unmixed (operation.after index)

/-- An index whose files share no ids comes about by operations. -/
theorem Unmixed.lived (unmixed : index.Unmixed) : index.Lived := by
  induction unmixed with
  | created created => exact .created created
  | after _ operation _ inductionHypothesis => exact inductionHypothesis.after operation

/-- A visit leaves the table indexed, if no two files share an id. -/
theorem indexed_outcome (indexed : index.published.symbols.Indexed) {visit : Visit σ}
    (unshared : visit.Unshared index) :
    (visit.outcome index).index.published.symbols.Indexed := by
  obtain ⟨-, -, same⟩ | ⟨snapshot, succeeded, -, made⟩ := visit.outcome_made index
  · rwa [same]
  · have taken : (visit.outcome index).index.published.snapshot = some snapshot := by
      rw [made]
      exact PassContext.snapshot_apply
    have base : (visit.base index).symbols.Indexed :=
      Visit.holds_base (motive := fun state => state.symbols.Indexed) indexed
        SymbolTable.indexed_empty visit
    rw [made]
    exact PassContext.indexed_apply base (unshared _ snapshot succeeded taken) snapshot _

/-- The look-up maps of the published table are projections of its symbols. -/
theorem Unmixed.indexed (unmixed : index.Unmixed) : index.published.symbols.Indexed := by
  induction unmixed with
  | created created =>
    rw [(blank_of_create created).2]
    exact SymbolTable.indexed_empty
  | @after index _ operation unshared inductionHypothesis =>
    cases operation with
    | pass visit => exact indexed_outcome inductionHypothesis unshared
    | save files now => exact inductionHypothesis
    | clear workspace =>
      rw [Operation.after, published_clear]
      exact SymbolTable.indexed_empty
    | ask query workspace now =>
      obtain ⟨embeddings, after⟩ := query.after_eq index workspace now
      rw [Operation.after, after]
      exact inductionHypothesis

/-- An index whose files share no ids publishes paired contents. -/
theorem Unmixed.paired (unmixed : index.Unmixed) : index.published.Paired := by
  induction unmixed with
  | created created => exact paired_published_create created
  | @after index _ operation _ inductionHypothesis =>
    cases operation with
    | pass visit => exact paired_published_outcome inductionHypothesis visit
    | save files now => exact inductionHypothesis
    | clear workspace =>
      rw [Operation.after, published_clear]
      exact IndexState.paired_empty
    | ask query workspace now =>
      cases query with
      | search text limit =>
        exact paired_published_search inductionHypothesis workspace text limit now
      | _ => exact inductionHypothesis

/-- What a file system gives back of an index: the loaded state, and for each root that leads to
the index an opened index with that state that answers every run of queries like it. -/
structure GivesBack (index : Index σ) (files : FileSystem) (loaded : IndexState) : Prop where
  loads : savedState? files index.savePath = some loaded
  reopens : ∀ (workspace : Workspace σ) (root : String), workspace.files = files →
    files.canonical root = .ok index.root →
      ∃ reopened after,
        openSaved workspace root index.settings index.parser index.provider =
          .ok (reopened, after) ∧ reopened.published = loaded ∧
        ∀ (asked : List (Asked σ)) (query : Query) (met : Workspace σ) (now : Int),
          query.answer (reopened.afterAll asked) met now =
            query.answer (index.afterAll asked) met now

/-- An index with restored contents agrees with the one that was saved. -/
theorem agrees_of_restored {loaded : IndexState} (ready : index.phase = .ready)
    (restored : index.published.Restored loaded) (announcements : Nat) :
    Agrees { index with published := loaded, phase := .ready, announcements } index where
  root := rfl
  settings := rfl
  provider := rfl
  phase := ready.symm
  symbols := restored.symbols
  graph := restored.graph
  entries := restored.entries

/-- What is loaded from a saved index gives it back. -/
theorem givesBack_of_loads {files : FileSystem} {loaded : IndexState}
    (ready : index.phase = .ready) (restored : index.published.Restored loaded)
    (loads : savedState? files index.savePath = some loaded) : index.GivesBack files loaded where
  loads := loads
  reopens workspace root same canonical := by
    subst same
    obtain ⟨after, opened⟩ := openSaved_of_loads canonical loads index.settings index.parser
      index.provider
    refine ⟨_, after, opened, rfl, fun asked query met now => ?_⟩
    exact ((agrees_of_restored ready restored 1).afterAll asked).answer_eq query met now

/-- An index with a snapshot is ready. -/
theorem WellPhased.ready_of_isSome (wellPhased : index.WellPhased)
    (taken : index.published.snapshot.isSome) : index.phase = .ready := by
  have blank (phase : index.phase = .empty ∨ index.phase = .cleared) : False := by
    rw [wellPhased.blank phase] at taken
    cases taken
  rcases wellPhased.phase with empty | ready | cleared
  · exact (blank (.inl empty)).elim
  · exact ready
  · exact (blank (.inr cleared)).elim

/-- A saved index comes back: what is loaded of its text is its state but for the skipped entries
and the failures, and an index that is opened over a file with that text, as it stands after the
save, answers every run of queries like the one that was saved. The numbers of a state are machine
words; its finite floating-point numbers are taken to be decoded from their texts. -/
theorem Unmixed.comes_back (unmixed : index.Unmixed)
    (fits : (SavedIndex.ofState index.published).Fits)
    (finite : (SavedIndex.ofState index.published).IsFinite)
    (floats : (SavedIndex.ofState index.published).FloatsRecover) :
    ∃ loaded, index.published.Restored loaded ∧
      (SavedIndex.parse? (SavedIndex.ofState index.published).render).map SavedIndex.toState =
        some loaded ∧
      ∀ (files after : FileSystem) (now : Int), index.save files now = (.ok (), after) →
        (files.SavesPlainly index.root → index.GivesBack after loaded) ∧
          ∀ later : FileSystem, later.readText index.savePath =
            .ok (SavedIndex.ofState index.published).render → index.GivesBack later loaded := by
  have restored := IndexState.restored_toState unmixed.indexed unmixed.paired
  have loaded := fits.load finite floats
  refine ⟨_, restored, loaded, fun files after now saved => ?_⟩
  have ready : index.phase = .ready :=
    unmixed.lived.wellPhased.ready_of_isSome (isSome_snapshot_of_save (congrArg Prod.fst saved))
  have standing : ∀ later : FileSystem, later.readText index.savePath =
      .ok (SavedIndex.ofState index.published).render →
        index.GivesBack later (SavedIndex.ofState index.published).toState := by
    intro later written
    refine givesBack_of_loads ready restored ?_
    rw [savedState?, written]
    exact loaded
  exact ⟨fun plainly => standing after (readText_of_save plainly saved), standing⟩

/-! ## A run with vectors that are saved -/

/-- The index after the update that drops a vector. -/
def moodyUpdated : Index Nat := (moodyUpdate.outcome moodySearched).index

/-- The project after this index was saved beside it. -/
def moodyProject : FileSystem := (moodyUpdated.save (editedProject "f" 0) 4).2

/-- Whether files share ids is checked on the published snapshot. -/
theorem unshared_of_all {visit : Visit σ}
    (checked : (visit.outcome index).index.published.snapshot.all (fun snapshot =>
      decide ((visit.context index).Unshared (visit.base index) (visit.changes index snapshot))) =
        true) : visit.Unshared index := by
  intro stats snapshot _ taken
  rw [taken] at checked
  exact of_decide_eq_true checked

/-- The index of the example is created. -/
theorem create_moodyIndex :
    create (editedProject "f" 0) "/p" wordIndex.settings wordParser (some moodyProvider) =
      .ok moodyIndex := by
  have root : (editedProject "f" 0).canonical "/p" = .ok "/p" :=
    eq_ok_of_toOption (by decide +kernel)
  rw [create, root]
  rfl

/-- No two files of the example share an id. -/
theorem unmixed_moodyUpdated : moodyUpdated.Unmixed := by
  have built : moodyBuild.Unshared moodyIndex := unshared_of_all (by decide +kernel)
  have updated : moodyUpdate.Unshared moodySearched := unshared_of_all (by decide +kernel)
  exact (((Unmixed.created create_moodyIndex).after (.pass moodyBuild) built).after
    (.ask (.search "g" 5) { files := editedProject "f" 0, provider := 3 } 2) trivial).after
    (.pass moodyUpdate) updated

/-- The root of the example. -/
theorem root_moodyUpdated : moodyUpdated.root = "/p" :=
  ((Operation.pass moodyUpdate).root_after moodySearched).trans <|
    ((Operation.ask (.search "g" 5) { files := editedProject "f" 0, provider := 3 } 2).root_after
      (moodyBuild.outcome moodyIndex).index).trans <|
    (Operation.pass moodyBuild).root_after moodyIndex

/-- The index with the one vector comes back from its file, which stands below its root. -/
theorem moodyUpdated_comes_back :
    moodyUpdated.published.embeddings.entries.keys = ["b.ts:g:1"] ∧
      moodyProject.canonical "/p" = .ok moodyUpdated.root ∧
      ∃ loaded, moodyUpdated.published.Restored loaded ∧
        moodyUpdated.GivesBack moodyProject loaded := by
  -- One evaluation of the run for all that is asked of it.
  have checked : moodyUpdated.published.embeddings.entries.keys = ["b.ts:g:1"] ∧
      (moodyProject.canonical "/p").toOption = some "/p" ∧
      (moodyUpdated.save (editedProject "f" 0) 4).1.toOption = some () ∧
      (SavedIndex.ofState moodyUpdated.published).Fits ∧
      (SavedIndex.ofState moodyUpdated.published).IsFinite ∧
      (SavedIndex.ofState moodyUpdated.published).FloatsRecover := by decide +kernel
  obtain ⟨stored, found, succeeded, fits, finite, floats⟩ := checked
  have saved : moodyUpdated.save (editedProject "f" 0) 4 = (.ok (), moodyProject) :=
    Prod.ext (eq_ok_of_toOption succeeded) rfl
  obtain ⟨loaded, restored, -, comesBack⟩ := unmixed_moodyUpdated.comes_back fits finite floats
  refine ⟨stored, ?_, loaded, restored, ?_⟩
  · rw [eq_ok_of_toOption found, root_moodyUpdated]
  · exact (comesBack (editedProject "f" 0) moodyProject 4 saved).1
      (root_moodyUpdated ▸ savesPlainly_editedProject)

end Index

end SourceAtlas
