import SourceAtlas.Index.Query
import SourceAtlas.Proofs.Embedding.Pairing
import SourceAtlas.Proofs.Index.Refinement

/-!
# No vector without its symbol

Symbols leave an index with a dropped file, with a file stored anew and by
eviction, and their vectors leave with them. So the vectors of every published
state are paired with its symbols, whatever the provider answers, and the purge
at the end of a pass finds nothing.
-/

namespace SourceAtlas

/-- The symbols and vectors of a state. -/
def IndexState.contents (state : IndexState) : SymbolTable × EmbeddingCache :=
  (state.symbols, state.embeddings)

/-- The vectors of a state are paired with its symbols. -/
def IndexState.Paired (state : IndexState) : Prop := state.embeddings.Paired state.symbols

/-- A state without contents is paired. -/
theorem IndexState.paired_empty : IndexState.empty.Paired := EmbeddingCache.paired_empty _

namespace PassContext

variable {σ : Type} {context : PassContext σ} {contents : SymbolTable × EmbeddingCache}
  {symbols : SymbolTable} {cache : EmbeddingCache} {base : IndexState} {snapshot : Snapshot}
  {changes : ChangeSet}

/-- Dropping a file takes its entries with its symbols. -/
theorem paired_dropFile (paired : contents.2.Paired contents.1) (path : String) :
    (dropFile contents path).2.Paired (dropFile contents path).1 := by
  refine paired.foldl_remove fun id outside known => ?_
  rw [SymbolTable.contains_iff] at known ⊢
  rwa [dropFile_eq, SymbolTable.symbols_removeFile, if_neg outside]

/-- Dropping files takes their entries with their symbols. -/
theorem paired_foldl_dropFile (paired : contents.2.Paired contents.1) (paths : List String) :
    (paths.foldl dropFile contents).2.Paired (paths.foldl dropFile contents).1 := by
  refine List.foldlRecOn (motive := fun contents => contents.2.Paired contents.1) paths dropFile
    paired ?_
  intro contents paired path _
  exact paired_dropFile paired path

/-- Storing a file takes the entries of its former symbols. -/
theorem paired_storeFile (paired : contents.2.Paired contents.1) (now : Int) (file : ParsedFile) :
    (storeFile now contents file).2.Paired (storeFile now contents file).1 := by
  refine paired.foldl_remove fun id outside known => ?_
  rw [SymbolTable.contains_iff] at known ⊢
  -- A symbol that the file did not list is still there, unless a new one took its identifier.
  rw [storeFile_eq, SymbolTable.symbols_replaceFile, SymbolTable.symbols_removeFile,
    if_neg outside, Option.isSome_or, known, Bool.or_true]

/-- Storing files takes the entries of their former symbols. -/
theorem paired_storeFiles (paired : contents.2.Paired contents.1) (now : Int)
    (files : List ParsedFile) :
    (storeFiles now contents files).2.2.Paired (storeFiles now contents files).2.1 := by
  induction files generalizing contents with
  | nil => exact paired
  | cons first rest inductionHypothesis =>
    exact inductionHypothesis (paired_storeFile paired now first)

/-- Vectors that are refused change nothing, so any list of vectors may be offered. -/
theorem paired_storeVectors (paired : cache.Paired symbols) (now : Int)
    (vectors : List (String × Embedding)) :
    (storeVectors symbols now vectors cache).2.2.Paired symbols := by
  induction vectors generalizing cache with
  | nil => exact paired
  | cons first rest inductionHypothesis =>
    rw [storeVectors]
    split
    · next accepted => exact inductionHypothesis (paired.insert accepted)
    · exact inductionHypothesis paired

/-- Embedding adds entries for stored symbols only. -/
theorem paired_embedSymbols (paired : cache.Paired symbols) (context : PassContext σ)
    (ids : List String) (state : σ) :
    (context.embedSymbols symbols cache ids state).cache.Paired symbols := by
  rw [embedSymbols]
  split
  · exact paired
  · exact paired_storeVectors paired context.now _

/-- The symbols and vectors that a pass has made when it comes to purge. -/
def unpurged (context : PassContext σ) (base : IndexState) (changes : ChangeSet) (provider : σ) :
    SymbolTable × EmbeddingCache :=
  let parsed := context.parsedFiles changes
  let left := (dropped changes parsed).foldl dropFile base.contents
  let (newIds, symbols, cache) := storeFiles context.now left parsed
  (symbols, (context.embedSymbols symbols cache newIds provider).cache)

/-- The symbols before the purge: files are dropped, then parsed ones are stored. -/
theorem symbols_unpurged (context : PassContext σ) (base : IndexState) (changes : ChangeSet)
    (provider : σ) :
    (context.unpurged base changes provider).1 =
      (context.parsedFiles changes).foldl
        (fun table file => table.replaceFile file.path file.symbols context.now)
        ((dropped changes (context.parsedFiles changes)).foldl SymbolTable.removeFile
          base.symbols) := by
  simp only [unpurged, symbols_storeFiles, fst_foldl_dropFile]
  rfl

/-- What is kept by dropping a file and by storing a parsed one holds when a pass comes to purge. -/
theorem holds_unpurged {motive : SymbolTable → Prop} (start : motive base.symbols)
    (drops : ∀ table path, motive table → motive (table.removeFile path))
    (stores : ∀ table, ∀ file ∈ context.parsedFiles changes, motive table →
      motive (table.replaceFile file.path file.symbols context.now)) (provider : σ) :
    motive (context.unpurged base changes provider).1 := by
  have left : motive ((dropped changes (context.parsedFiles changes)).foldl
      SymbolTable.removeFile base.symbols) :=
    List.foldlRecOn _ _ start fun table held path _ => drops table path held
  rw [symbols_unpurged]
  exact List.foldlRecOn _ _ left fun table held file member => stores table file member held

/-- What the last two stages of a pass, the purge and the eviction, leave of its contents. -/
def settle (context : PassContext σ) (contents : SymbolTable × EmbeddingCache) :
    SymbolTable × EmbeddingCache :=
  ((MemoryBudget.ofMegabytes context.settings.embeddings.maxMemory).enforce contents.1
    (contents.2.purgeOrphans contents.1)).2

/-- A pass without changes keeps its contents; any other one makes what the purge and the eviction
leave. -/
theorem contents_apply (context : PassContext σ) (base : IndexState) (snapshot : Snapshot)
    (changes : ChangeSet) (provider : σ) :
    (context.apply base snapshot changes provider).state.contents =
      if context.incremental && changes.isEmpty then base.contents
      else context.settle (context.unpurged base changes provider) := by
  rw [apply]
  split <;> rfl

/-- Before the purge every entry has its symbol. -/
theorem paired_unpurged (paired : base.Paired) (context : PassContext σ) (changes : ChangeSet)
    (provider : σ) :
    (context.unpurged base changes provider).2.Paired
      (context.unpurged base changes provider).1 := by
  have start : base.contents.2.Paired base.contents.1 := paired
  have left := paired_foldl_dropFile start (dropped changes (context.parsedFiles changes))
  have stored := paired_storeFiles left context.now (context.parsedFiles changes)
  exact paired_embedSymbols stored context _ provider

/-- Purge and eviction leave every entry its symbol. -/
theorem paired_settle (paired : contents.2.Paired contents.1) (context : PassContext σ) :
    (context.settle contents).2.Paired (context.settle contents).1 :=
  MemoryBudget.paired_enforce paired.purgeOrphans _

/-- A pass leaves every entry its symbol. -/
theorem paired_apply (paired : base.Paired) (context : PassContext σ) (snapshot : Snapshot)
    (changes : ChangeSet) (provider : σ) :
    (context.apply base snapshot changes provider).state.Paired := by
  rw [apply]
  split
  · exact paired
  · exact paired_settle (paired_unpurged paired context changes provider) context

end PassContext

namespace Visit

variable {σ : Type}

/-- The context of the pass. -/
def context (visit : Visit σ) (index : Index σ) : PassContext σ :=
  index.context visit.workspace.files (visit.isIncremental index) visit.now

/-- The changes that the pass over a snapshot applies. -/
def changes (visit : Visit σ) (index : Index σ) (snapshot : Snapshot) : ChangeSet :=
  Snapshot.diff (visit.base index).snapshot snapshot

/-- The symbols and vectors of the pass over a snapshot when it comes to purge. -/
def unpurged (visit : Visit σ) (index : Index σ) (snapshot : Snapshot) :
    SymbolTable × EmbeddingCache :=
  (visit.context index).unpurged (visit.base index) (visit.changes index snapshot)
    visit.workspace.provider

/-- A pass keeps its contents if nothing changed, and settles new ones otherwise. -/
theorem contents_made (visit : Visit σ) (index : Index σ) (snapshot : Snapshot) :
    (visit.made index snapshot).state.contents =
      if visit.isIncremental index && (visit.changes index snapshot).isEmpty then
        (visit.base index).contents
      else (visit.context index).settle (visit.unpurged index snapshot) :=
  (visit.context index).contents_apply _ _ _ _

/-- A request fails and leaves the phase and the published state, or publishes what the pass over
some snapshot made and answers with its figures. -/
theorem outcome_made (visit : Visit σ) (index : Index σ) :
    ((∃ error, (visit.outcome index).result = .error error) ∧
        (visit.outcome index).index.phase = index.phase ∧
        (visit.outcome index).index.published = index.published) ∨
      ∃ snapshot,
        (visit.outcome index).result = .ok (visit.made index snapshot).state.stats ∧
          (visit.outcome index).index.phase = .ready ∧
          (visit.outcome index).index.published = (visit.made index snapshot).state := by
  obtain ⟨request, workspace, now⟩ := visit
  cases request with
  | build options =>
    simp only [outcome, Index.build]
    split
    · exact .inl ⟨⟨_, rfl⟩, rfl, rfl⟩
    · next snapshot captured =>
      split
      · exact .inl ⟨⟨_, rfl⟩, rfl, rfl⟩
      · exact .inr ⟨snapshot, rfl, rfl, rfl⟩
  | update paths =>
    simp only [outcome, Index.update]
    split
    · next previous ready taken =>
      split
      · exact .inl ⟨⟨_, rfl⟩, rfl, rfl⟩
      · next records recorded =>
        refine .inr ⟨Snapshot.ofFiles index.root now records [], ?_⟩
        simp only [made, base, isIncremental, if_true, taken]
        exact ⟨rfl, rfl, rfl⟩
    · exact .inl ⟨⟨_, rfl⟩, rfl, rfl⟩

end Visit

namespace Index

variable {σ : Type} {index : Index σ}

/-- The indexes that runs lead to: created or opened, then built, updated, cleared and searched in
any order, in any workspace. -/
inductive Attained : Index σ → Prop where
  | created {files : FileSystem} {root : String} {settings : Settings} {parser : FactParser}
      {provider : Option (Provider σ)} {index : Index σ}
      (created : create files root settings parser provider = .ok index) : Attained index
  | opened {workspace after : Workspace σ} {root : String} {settings : Settings}
      {parser : FactParser} {provider : Option (Provider σ)} {index : Index σ}
      (opened : openSaved workspace root settings parser provider = .ok (index, after)) :
      Attained index
  | passed {index : Index σ} (attained : Attained index) (visit : Visit σ) :
      Attained (visit.outcome index).index
  | cleared {index : Index σ} (attained : Attained index) (workspace : Workspace σ) :
      Attained (index.clear workspace).2.1
  | searched {index : Index σ} (attained : Attained index) (workspace : Workspace σ)
      (query : String) (limit : Nat) (now : Int) :
      Attained (index.search workspace query limit now).2.1

/-- A created index publishes paired contents. -/
theorem paired_published_create {files : FileSystem} {root : String} {settings : Settings}
    {parser : FactParser} {provider : Option (Provider σ)}
    (created : create files root settings parser provider = .ok index) :
    index.published.Paired := by
  rw [create] at created
  split at created
  · cases created
    exact EmbeddingCache.paired_empty _
  · cases created

/-- An opened index publishes paired contents. -/
theorem paired_published_openSaved {workspace after : Workspace σ} {root : String}
    {settings : Settings} {parser : FactParser} {provider : Option (Provider σ)}
    (opened : openSaved workspace root settings parser provider = .ok (index, after)) :
    index.published.Paired := by
  obtain ⟨start, created, opened⟩ := bind_eq_ok_iff.mp opened
  split at opened
  · next state found =>
    cases opened
    -- Saved vectors come back only through the check that new ones go through.
    rw [savedState?] at found
    split at found
    · obtain ⟨saved, -, rfl⟩ := Option.map_eq_some_iff.mp found
      exact EmbeddingCache.paired_ofStored _ saved.embeddings
    · cases found
  · cases opened
    exact paired_published_create created

/-- A visit starts from paired contents. -/
theorem paired_base (paired : index.published.Paired) (visit : Visit σ) :
    (visit.base index).Paired :=
  Visit.holds_base paired IndexState.paired_empty visit

/-- A visit leaves paired contents. -/
theorem paired_published_outcome (paired : index.published.Paired) (visit : Visit σ) :
    (visit.outcome index).index.published.Paired := by
  obtain ⟨-, -, same⟩ | ⟨snapshot, -, -, made⟩ := visit.outcome_made index
  · rw [same]
    exact paired
  · rw [made]
    exact PassContext.paired_apply (paired_base paired visit) _ snapshot _ _

/-- A cleared index publishes nothing. -/
theorem published_clear (index : Index σ) (workspace : Workspace σ) :
    (index.clear workspace).2.1.published = .empty := by
  simp only [clear, publish]
  split <;> rfl

/-- The state behind the check for readiness is the published one. -/
theorem eq_published_of_readyState {operation : String} {state : IndexState}
    (ready : index.readyState operation = .ok state) : state = index.published := by
  rw [readyState] at ready
  split at ready
  · cases ready
    rfl
  · cases ready

/-- A search leaves paired contents. -/
theorem paired_published_search (paired : index.published.Paired) (workspace : Workspace σ)
    (query : String) (limit : Nat) (now : Int) :
    (index.search workspace query limit now).2.1.published.Paired := by
  simp only [Index.search]
  split
  · exact paired
  · exact paired
  · next state provider ready _ =>
    obtain rfl := eq_published_of_readyState ready
    split
    · exact paired
    · split
      · exact paired
      · next vector _ => exact EmbeddingCache.Paired.search paired vector _ limit now

/-- Every index publishes paired contents. -/
theorem Attained.paired_published (attained : index.Attained) : index.published.Paired := by
  induction attained with
  | created created => exact paired_published_create created
  | opened opened => exact paired_published_openSaved opened
  | passed _ visit inductionHypothesis => exact paired_published_outcome inductionHypothesis visit
  | cleared _ workspace _ =>
    rw [published_clear]
    exact IndexState.paired_empty
  | searched _ workspace query limit now inductionHypothesis =>
    exact paired_published_search inductionHypothesis workspace query limit now

/-- In every published state each vector belongs to a symbol, stands under its own identifier and
has the dimension of the cache. No pass from there finds an orphan when it comes to purge. -/
theorem Attained.orphanFree (attained : index.Attained) :
    index.published.Paired ∧
      ∀ (visit : Visit σ) (snapshot : Snapshot),
        (visit.unpurged index snapshot).2.orphans (visit.unpurged index snapshot).1 = [] ∧
          (visit.made index snapshot).state.contents =
            if visit.isIncremental index && (visit.changes index snapshot).isEmpty then
              (visit.base index).contents
            else (visit.context index).settle (visit.unpurged index snapshot) := by
  have paired := attained.paired_published
  refine ⟨paired, fun visit snapshot => ⟨?_, visit.contents_made index snapshot⟩⟩
  exact (PassContext.paired_unpurged (paired_base paired visit) _ _ _).orphans_eq_nil

/-! ## A run with a provider that answers wrongly, fails and changes its dimension -/

/-- A provider that first answers without vectors, then fails, then embeds in one dimension and
from then on in two. -/
def moodyProvider : Provider Nat where
  dimension := 1
  maxBatch := 8
  embed texts calls :=
    (match calls with
      | 0 => .ok []
      | 1 => .error { reason := "busy" }
      | 2 => .ok [[1]]
      | _ => .ok (texts.map fun _ => [1, 0]), calls + 1)
  embedQuery _ calls := (.ok [1], calls)
  health calls := (.healthy, calls)

/-- The index of the edited project with this provider. -/
def moodyIndex : Index Nat where
  root := "/p"
  settings := wordIndex.settings
  parser := wordParser
  provider := some moodyProvider

/-- The build: the batch is answered wrongly, then the first symbol fails. -/
def moodyBuild : Visit Nat where
  request := .build {}
  workspace := { files := editedProject "f" 0, provider := 0 }
  now := 1

/-- The index after the build and a search that finds the one vector. -/
def moodySearched : Index Nat :=
  ((moodyBuild.outcome moodyIndex).index.search
    { files := editedProject "f" 0, provider := 3 } "g" 5 2).2.1

/-- The update after an edit: the new vector has another dimension. -/
def moodyUpdate : Visit Nat where
  request := .update ["a.ts"]
  workspace := { files := editedProject "h2" 5, provider := 3 }
  now := 3

/-- Only the vector of the symbol that stayed is left. -/
theorem moodyUpdate_orphanFree :
    (moodyUpdate.outcome moodySearched).index.published.Paired ∧
      (moodyUpdate.outcome moodySearched).index.published.embeddings.entries.keys =
        ["b.ts:g:1"] := by
  have root : (editedProject "f" 0).canonical "/p" = .ok "/p" :=
    eq_ok_of_toOption (by decide +kernel)
  have created : create (editedProject "f" 0) "/p" wordIndex.settings wordParser
      (some moodyProvider) = .ok moodyIndex := by
    rw [create, root]
    rfl
  have built := (Attained.created created).passed moodyBuild
  have searched := built.searched { files := editedProject "f" 0, provider := 3 } "g" 5 2
  exact ⟨(Attained.orphanFree (searched.passed moodyUpdate)).1, by decide +kernel⟩

end Index

end SourceAtlas
