import SourceAtlas.Proofs.Embedding.Recency
import SourceAtlas.Proofs.Index.Budget
import SourceAtlas.Proofs.Index.Jobs

/-!
# A run of passes and one full pass

What a run without evictions publishes is compared with what one full pass over
the same tree makes. The graphs are the same. The symbols are the same exactly
when the full pass evicts nothing either: it may have vectors to store that the
provider refused along the run, and then the budget takes symbols away
(`pairBuild_unlike_fullPass`). Without a provider it stores no vectors, and
symbols that fitted once fit again.
-/

namespace SourceAtlas

namespace SymbolTable

variable {first second : SymbolTable}

/-- Time stamps take no memory of their own. -/
theorem map_estimatedBytes_eq (same : first.untimed = second.untimed) :
    first.toList.map Symbol.estimatedBytes = second.toList.map Symbol.estimatedBytes := by
  have untimed (table : SymbolTable) : table.toList.map Symbol.estimatedBytes =
      table.untimed.toList.map Symbol.estimatedBytes := by
    rw [toList, toList, SymbolTable.untimed, FileMap.values_eq, FileMap.values_eq,
      Std.ExtTreeMap.toList_map, List.map_map, List.map_map, List.map_map]
    rfl
  rw [untimed first, untimed second, same]

/-- Tables that differ in times only are of one size. -/
theorem size_eq_of_untimed (same : first.untimed = second.untimed) : first.size = second.size := by
  have sizes := congrArg List.length (map_estimatedBytes_eq same)
  rwa [List.length_map, List.length_map, length_toList, length_toList] at sizes

end SymbolTable

namespace EmbeddingCache

variable {cache : EmbeddingCache} {symbols : SymbolTable}

/-- Vectors only add to the memory charged for the symbols. -/
theorem total_le_estimatedBytes (cache : EmbeddingCache) (symbols : SymbolTable) :
    total (symbols.toList.map Symbol.estimatedBytes) ≤ cache.estimatedBytes symbols :=
  Nat.le_add_right _ _

/-- Without cached vectors only symbols take memory. -/
theorem estimatedBytes_of_vacant (vacant : cache.entries = ∅) (symbols : SymbolTable) :
    cache.estimatedBytes symbols = total (symbols.toList.map Symbol.estimatedBytes) := by
  rw [estimatedBytes, size, vacant, Std.ExtTreeMap.size_empty]
  omega

/-- Removals leave a cache without entries empty. -/
theorem vacant_foldl_remove (vacant : cache.entries = ∅) (ids : List String) :
    (ids.foldl remove cache).entries = ∅ := by
  refine List.foldlRecOn (motive := fun cache => cache.entries = ∅) ids remove vacant ?_
  intro cache vacant id _
  rw [remove, vacant]
  rfl

/-- A purge leaves a cache without entries empty. -/
theorem vacant_purgeOrphans (vacant : cache.entries = ∅) (symbols : SymbolTable) :
    (cache.purgeOrphans symbols).entries = ∅ := by
  rw [purgeOrphans]
  split
  · rfl
  · exact vacant_foldl_remove vacant _

end EmbeddingCache

namespace PassContext

variable {σ : Type} {context : PassContext σ} {base : IndexState} {changes : ChangeSet}
  {contents : SymbolTable × EmbeddingCache}

/-- Storing files leaves a cache without entries empty. -/
theorem vacant_storeFiles (vacant : contents.2.entries = ∅) (now : Int)
    (files : List ParsedFile) : (storeFiles now contents files).2.2.entries = ∅ := by
  induction files generalizing contents with
  | nil => exact vacant
  | cons first rest inductionHypothesis =>
    exact inductionHypothesis (EmbeddingCache.vacant_foldl_remove vacant _)

/-- Before anything is embedded a pass that starts without vectors has none. -/
theorem vacant_stored (vacant : base.embeddings.entries = ∅) :
    (context.stored base changes).2.2.entries = ∅ := by
  have left : ((dropped changes (context.parsedFiles changes)).foldl dropFile
      base.contents).2.entries = ∅ := by
    refine List.foldlRecOn (motive := fun (contents : SymbolTable × EmbeddingCache) =>
      contents.2.entries = ∅) _ dropFile vacant ?_
    intro contents vacant path _
    exact EmbeddingCache.vacant_foldl_remove vacant _
  exact vacant_storeFiles left _ _

/-- Without a provider a pass adds no vectors. -/
theorem vacant_unpurged (noProvider : context.provider = none)
    (vacant : base.embeddings.entries = ∅) (provider : σ) :
    (context.unpurged base changes provider).2.entries = ∅ := by
  simp only [unpurged, embedSymbols, noProvider]
  exact vacant_stored vacant

end PassContext

namespace Index

variable {σ : Type} {start index : Index σ} {files earlier : FileSystem} {visit : Visit σ}

/-- A full pass over a snapshot, from nothing. -/
def fullPass (index : Index σ) (files : FileSystem) (snapshot : Snapshot) (now : Int)
    (provider : σ) : PassContext.Made σ :=
  (index.context files false now).apply .empty snapshot (Snapshot.diff none snapshot) provider

/-- The symbols and vectors of a full pass when it comes to purge. -/
def fullUnpurged (index : Index σ) (files : FileSystem) (snapshot : Snapshot) (now : Int)
    (provider : σ) : SymbolTable × EmbeddingCache :=
  (index.context files false now).unpurged .empty (Snapshot.diff none snapshot) provider

/-- Before the eviction of a full pass every symbol is under its own id. -/
theorem identified_fullUnpurged (index : Index σ) (files : FileSystem) (snapshot : Snapshot)
    (now : Int) (provider : σ) :
    (index.fullUnpurged files snapshot now provider).1.Identified :=
  PassContext.identified_unpurged SymbolTable.identified_empty provider

/-- A full pass evicts nothing exactly when all that it made fits the budget. -/
theorem fullPass_evicted_eq_zero_iff (index : Index σ) (files : FileSystem) (snapshot : Snapshot)
    (now : Int) (provider : σ) :
    (index.fullPass files snapshot now provider).evicted = 0 ↔
      index.budget.Holds ((index.fullUnpurged files snapshot now provider).1,
        (index.fullUnpurged files snapshot now provider).2.purgeOrphans
          (index.fullUnpurged files snapshot now provider).1) := by
  rw [← MemoryBudget.evicted_eq_nil_iff _
    (index.identified_fullUnpurged files snapshot now provider), ← List.length_eq_zero_iff]
  rfl

/-- What a full pass keeps and what it evicts is all that it made. -/
theorem size_fullPass (index : Index σ) (files : FileSystem) (snapshot : Snapshot) (now : Int)
    (provider : σ) :
    (index.fullPass files snapshot now provider).state.symbols.size +
        (index.fullPass files snapshot now provider).evicted =
      (index.fullUnpurged files snapshot now provider).1.size :=
  MemoryBudget.size_enforce _ (index.identified_fullUnpurged files snapshot now provider) _

/-- Symbols that fit with vectors fit without them, so without a provider a full pass that makes the
symbols of a state within the budget evicts nothing. -/
theorem fullPass_evicted_of_noProvider (noProvider : index.provider = none) {state : IndexState}
    (fits : index.budget.Holds state.contents) {snapshot : Snapshot} {now : Int} {provider : σ}
    (same : state.symbols.untimed =
      (index.fullUnpurged files snapshot now provider).1.untimed) :
    (index.fullPass files snapshot now provider).evicted = 0 := by
  have vacant : (index.fullUnpurged files snapshot now provider).2.entries = ∅ :=
    PassContext.vacant_unpurged noProvider rfl provider
  rw [fullPass_evicted_eq_zero_iff, MemoryBudget.Holds,
    EmbeddingCache.estimatedBytes_of_vacant (EmbeddingCache.vacant_purgeOrphans vacant _),
    ← SymbolTable.map_estimatedBytes_eq same, ← SymbolTable.size_eq_of_untimed same]
  exact fits.imp_left fun fits => Nat.le_trans (EmbeddingCache.total_le_estimatedBytes _ _) fits

/-! ## Runs -/

variable {root : String} {settings : Settings} {parser : FactParser}
  {provider : Option (Provider σ)}

/-- An index that is reached by passes comes about by operations. -/
theorem Reached.lived (created : create files root settings parser provider = .ok start)
    (reached : Reached start files index earlier) : index.Lived := by
  induction reached with
  | start => exact .created created
  | @pass _ _ visit _ _ inductionHypothesis => exact inductionHypothesis.after (.pass visit)

/-- Along a run from a new index the published state stays within the budget. -/
theorem Reached.withinBudget (created : create files root settings parser provider = .ok start)
    (reached : Reached start files index earlier) : index.WithinBudget := by
  induction reached with
  | start => exact withinBudget_of_blank (blank_of_create created).2
  | @pass _ _ visit reached _ inductionHypothesis =>
    have identified := (reached.lived created).identified
    exact (withinBudget_after_iff identified (.pass visit)).mpr (.inl inductionHypothesis)

/-- Passes leave the provider an index was created with. -/
theorem Reached.provider_eq (created : create files root settings parser provider = .ok start)
    (reached : Reached start files index earlier) : index.provider = provider := by
  induction reached with
  | start =>
    rw [create] at created
    split at created
    · cases created
      rfl
    · cases created
  | pass reached steady inductionHypothesis =>
    obtain ⟨snapshot, -, next, -⟩ := (reached.current created).advances steady
    rw [next]
    exact inductionHypothesis

/-- After every pass of a run that evicts nothing, the published graph is the one that a full pass
over the published snapshot and the current files makes. The published symbols with their look-ups
are, time stamps apart, those of that pass exactly when it evicts nothing either, which is always
so where there is no provider. -/
theorem Reached.published_eq_fullPass
    (created : create files root settings parser provider = .ok start)
    (reached : Reached start files index earlier) (steady : visit.Steady earlier index) :
    ∃ snapshot, (visit.outcome index).index.published.snapshot = some snapshot ∧
      ∀ (now : Int) (state : σ),
        (visit.outcome index).index.published.graph =
            (index.fullPass visit.workspace.files snapshot now state).state.graph ∧
          ((visit.outcome index).index.published.symbols.untimed =
              (index.fullPass visit.workspace.files snapshot now state).state.symbols.untimed ↔
            (index.fullPass visit.workspace.files snapshot now state).evicted = 0) ∧
          (provider = none →
            (index.fullPass visit.workspace.files snapshot now state).evicted = 0) := by
  obtain ⟨snapshot, advances, next, noneEvicted⟩ := (reached.current created).advances steady
  have within := (Reached.pass reached steady).withinBudget created
  have sameBudget : (visit.outcome index).index.budget = index.budget :=
    budget_after (.pass visit) index
  rw [withinBudget_iff_holds, sameBudget] at within
  rw [next] at within ⊢
  refine ⟨snapshot, PassContext.snapshot_apply, fun now state => ?_⟩
  have full : (index.context visit.workspace.files false now).Advances
      (index.context visit.workspace.files false now) .empty snapshot :=
    .fromEmpty advances.keyed advances.colonFree
  have same : (index.context visit.workspace.files (visit.isIncremental index)
      visit.now).SameRules (index.context visit.workspace.files false now) := ⟨rfl, rfl⟩
  have contents := PassContext.contentAt?_congr same rfl snapshot.files
  have published := advances.stores_apply visit.workspace.provider noneEvicted
  rw [contents] at published
  -- What the full pass makes before it looks at the budget is what the run has published.
  have made : (visit.made index snapshot).state.symbols.untimed =
      (index.fullUnpurged visit.workspace.files snapshot now state).1.untimed := by
    refine published.untimed_eq ?_
    rw [fullUnpurged, PassContext.symbols_unpurged]
    exact full.stores
  refine ⟨?_, ⟨fun agree => ?_, fun noneEvictedFull => ?_⟩, fun noProvider => ?_⟩
  · have graph := advances.maps_apply visit.workspace.provider
    rw [PassContext.Maps, contents] at graph
    exact graph.unique (full.maps_apply state)
  · have sizes := index.size_fullPass visit.workspace.files snapshot now state
    rw [← SymbolTable.size_eq_of_untimed made, SymbolTable.size_eq_of_untimed agree] at sizes
    omega
  · exact published.untimed_eq (full.stores_apply state noneEvictedFull)
  · have none : index.provider = none := (reached.provider_eq created).trans noProvider
    exact fullPass_evicted_of_noProvider none within made

/-- The published state after an update is that of a full pass. -/
theorem laterUpdate_published_eq_fullPass :
    ∃ snapshot,
      (laterUpdate.outcome (firstBuild.outcome wordIndex).index).index.published.snapshot =
        some snapshot ∧
      (laterUpdate.outcome (firstBuild.outcome wordIndex).index).index.published.graph =
        ((firstBuild.outcome wordIndex).index.fullPass (editedProject "h2" 5) snapshot 3
          ()).state.graph ∧
      (laterUpdate.outcome (firstBuild.outcome wordIndex).index).index.published.symbols.untimed =
        ((firstBuild.outcome wordIndex).index.fullPass (editedProject "h2" 5) snapshot 3
          ()).state.symbols.untimed := by
  obtain ⟨snapshot, published, same⟩ := Reached.published_eq_fullPass create_wordIndex
    (.pass .start steady_firstBuild) steady_laterUpdate
  obtain ⟨graph, symbols, noneEvicted⟩ := same 3 ()
  exact ⟨snapshot, published, graph, symbols.mpr (noneEvicted rfl)⟩

/-! ## A provider that works for two texts at once only -/

/-- A vector that takes more than half of the smallest budget. -/
def wideVector : Embedding := List.replicate 150000 0

/-- Answers a batch of two with wide vectors and refuses a single text. -/
def pairProvider : Provider Unit where
  dimension := 150000
  maxBatch := 2
  embed texts state :=
    if texts.length = 2 then (.ok (texts.map fun _ => wideVector), state)
    else (.error { reason := "a text alone" }, state)
  embedQuery _ state := (.error { reason := "a text alone" }, state)
  health state := (.healthy, state)

/-- The settings of the project with one unit of memory. -/
def smallSettings : Settings :=
  { wordIndex.settings with
    embeddings := { wordIndex.settings.embeddings with maxMemory := 1 } }

/-- The index of the project with that provider. -/
def pairIndex : Index Unit where
  root := "/p"
  settings := smallSettings
  parser := wordParser
  provider := some pairProvider

/-- The project with one of its two files. -/
def loneProject : FileSystem where
  top := .directory [("p", .directory [("a.ts", .file "f".toUTF8 0)])]

/-- The build of the project with one file. -/
def loneBuild : Visit Unit where
  request := .build {}
  workspace := { files := loneProject, provider := () }
  now := 1

/-- The build after the second file was added. -/
def pairBuild : Visit Unit where
  request := .build {}
  workspace := { files := editedProject "f" 0, provider := () }
  now := 2

/-- The index of the example is created. -/
theorem create_pairIndex :
    create loneProject "/p" smallSettings wordParser (some pairProvider) = .ok pairIndex := by
  have root : loneProject.canonical "/p" = .ok "/p" := eq_ok_of_toOption (by decide +kernel)
  rw [create, root]
  rfl

/-- The first build of the example meets the project as it stands. -/
theorem steady_loneBuild : loneBuild.Steady loneProject pairIndex where
  succeeds := by
    obtain ⟨stats, succeeds, -⟩ := exists_ok_of_any (show
      (loneBuild.outcome pairIndex).result.toOption.any (fun _ => true) = true by decide +kernel)
    exact ⟨stats, succeeds⟩
  undisturbed := by decide +kernel
  noneEvicted := by decide +kernel
  colonFree := by decide +kernel

/-- The second build of the example meets the project as it stands. -/
theorem steady_pairBuild :
    pairBuild.Steady loneProject (loneBuild.outcome pairIndex).index where
  succeeds := by
    obtain ⟨stats, succeeds, -⟩ := exists_ok_of_any (show
      (pairBuild.outcome (loneBuild.outcome pairIndex).index).result.toOption.any
        (fun _ => true) = true by decide +kernel)
    exact ⟨stats, succeeds⟩
  undisturbed := by decide +kernel
  noneEvicted := by decide +kernel
  colonFree := by decide +kernel

/-- Two vectors of one length that are stored in a cache without any. -/
theorem storeVectors_two {symbols : SymbolTable} {cache : EmbeddingCache} {one other : String}
    (knownOne : symbols.contains one = true) (knownOther : symbols.contains other = true)
    (different : one ≠ other) (vacant : cache.entries = ∅) (blank : cache.dimension = none)
    (vector : Embedding) (now : Int) :
    (PassContext.storeVectors symbols now [(one, vector), (other, vector)] cache).2.2.size = 2 ∧
      (PassContext.storeVectors symbols now [(one, vector), (other, vector)] cache).2.2.dimension =
        some vector.length := by
  have stored : (PassContext.storeVectors symbols now [(one, vector), (other, vector)] cache).2.2 =
      { entries := ((∅ : FileMap CacheEntry).insert one
          { symbolId := one, vector, lastAccess := now }).insert other
          { symbolId := other, vector, lastAccess := now }
        dimension := some vector.length } := by
    simp [PassContext.storeVectors, EmbeddingCache.insert, knownOne, knownOther, vacant, blank]
  rw [stored]
  exact ⟨by simp [EmbeddingCache.size, Std.ExtTreeMap.size_insert, different], rfl⟩

/-- What is asked of the full pass over both files, short of its vectors. -/
structure AsksForPair (context : PassContext Unit) (changes : ChangeSet) : Prop where
  jobs : (context.jobs .empty changes).map EmbeddingJob.symbolId = ["a.ts:f:1", "b.ts:g:1"]
  known : ∀ id ∈ (context.jobs .empty changes).map EmbeddingJob.symbolId,
    (context.stored .empty changes).2.1.contains id = true
  blank : (context.stored .empty changes).2.2.dimension = none
  size : (context.stored .empty changes).2.1.size = 2

instance (context : PassContext Unit) (changes : ChangeSet) :
    Decidable (AsksForPair context changes) :=
  decidable_of_iff
    ((context.jobs .empty changes).map EmbeddingJob.symbolId = ["a.ts:f:1", "b.ts:g:1"] ∧
      (∀ id ∈ (context.jobs .empty changes).map EmbeddingJob.symbolId,
        (context.stored .empty changes).2.1.contains id = true) ∧
      (context.stored .empty changes).2.2.dimension.isNone = true ∧
      (context.stored .empty changes).2.1.size = 2)
    ⟨fun ⟨jobs, known, blank, size⟩ => ⟨jobs, known, Option.isNone_iff_eq_none.mp blank, size⟩,
      fun asks => ⟨asks.jobs, asks.known, Option.isNone_iff_eq_none.mpr asks.blank, asks.size⟩⟩

/-- The cache of such a full pass holds two wide vectors when it comes to purge. -/
theorem AsksForPair.cache {context : PassContext Unit} {changes : ChangeSet}
    (asks : AsksForPair context changes) (provided : context.provider = some pairProvider)
    (batched : context.settings.embeddings.batchSize = smallSettings.embeddings.batchSize) :
    (context.unpurged .empty changes ()).2.size = 2 ∧
      (context.unpurged .empty changes ()).2.dimension = some wideVector.length := by
  have embedded : (context.unpurged .empty changes ()).2 =
      (context.embedSymbols (context.stored .empty changes).2.1
        (context.stored .empty changes).2.2 (context.stored .empty changes).1 ()).cache := rfl
  have vacant : (context.stored .empty changes).2.2.entries = ∅ := PassContext.vacant_stored rfl
  have ids := asks.jobs
  have known := asks.known
  have jobs : context.jobs .empty changes = PassContext.jobsFor (context.stored .empty changes).2.1
      (context.stored .empty changes).1 := rfl
  rw [jobs] at ids known
  simp only [embedded, PassContext.embedSymbols, PassContext.gather, provided, batched]
  generalize PassContext.jobsFor (context.stored .empty changes).2.1
    (context.stored .empty changes).1 = asked at ids known ⊢
  obtain ⟨one, other, rfl, isOne, isOther⟩ : ∃ one other, asked = [one, other] ∧
      one.symbolId = "a.ts:f:1" ∧ other.symbolId = "b.ts:g:1" := by
    simpa [List.map_eq_cons_iff] using ids
  have answered : (pairProvider.embedAll smallSettings.embeddings.batchSize
      [one, other] ()).1.vectors =
      [(one.symbolId, wideVector), (other.symbolId, wideVector)] := rfl
  have different : one.symbolId ≠ other.symbolId := by
    rw [isOne, isOther]
    decide
  rw [answered]
  exact storeVectors_two (known _ (by simp)) (known _ (by simp)) different vacant asks.blank _ _

/-- Two wide vectors do not fit, so something goes. -/
theorem AsksForPair.evicts {index : Index Unit} {snapshot : Snapshot} {now : Int}
    (asks : AsksForPair (index.context files false now) (Snapshot.diff none snapshot))
    (provided : index.provider = some pairProvider) (small : index.settings = smallSettings) :
    (index.fullPass files snapshot now ()).evicted ≠ 0 := by
  obtain ⟨vectors, dimension⟩ := asks.cache provided
    (congrArg (fun settings => settings.embeddings.batchSize) small)
  have paired := PassContext.paired_unpurged IndexState.paired_empty
    (index.context files false now) (Snapshot.diff none snapshot) ()
  have occupied : (index.fullUnpurged files snapshot now ()).1.size = 2 := asks.size
  have kept : (index.fullUnpurged files snapshot now ()).2.purgeOrphans
      (index.fullUnpurged files snapshot now ()).1 =
        (index.fullUnpurged files snapshot now ()).2 := by
    have standing : (index.fullUnpurged files snapshot now ()).2.entries.isEmpty = false := by
      have two : (index.fullUnpurged files snapshot now ()).2.entries.size = 2 := vectors
      rw [Std.ExtTreeMap.isEmpty_eq_size_beq_zero, two]
      rfl
    rw [EmbeddingCache.purgeOrphans]
    simp only [show (index.fullUnpurged files snapshot now ()).2.orphans
      (index.fullUnpurged files snapshot now ()).1 = [] from paired.orphans_eq_nil,
      List.foldl_nil, standing, Bool.false_eq_true, if_false]
  have mark : index.budget.highWater = 838860 := by
    rw [budget, small]
    decide +kernel
  rw [Ne, fullPass_evicted_eq_zero_iff, kept, MemoryBudget.Holds, occupied, mark,
    EmbeddingCache.estimatedBytes]
  have wide : (index.fullUnpurged files snapshot now ()).2.size *
      (index.fullUnpurged files snapshot now ()).2.dimension.getD 0 * 4 = 1200000 := by
    rw [show (index.fullUnpurged files snapshot now ()).2.size = 2 from vectors,
      show (index.fullUnpurged files snapshot now ()).2.dimension = some wideVector.length from
        dimension, wideVector, List.length_replicate, Option.getD_some]
  dsimp only
  omega

/-- The two builds evict nothing and end with two symbols, and the full pass over the same files,
with the same provider, evicts one of them. -/
theorem pairBuild_unlike_fullPass :
    create loneProject "/p" smallSettings wordParser (some pairProvider) = .ok pairIndex ∧
      Reached pairIndex loneProject (loneBuild.outcome pairIndex).index loneProject ∧
      pairBuild.Steady loneProject (loneBuild.outcome pairIndex).index ∧
      ∃ snapshot,
        (pairBuild.outcome (loneBuild.outcome pairIndex).index).index.published.snapshot =
          some snapshot ∧
        (pairBuild.outcome (loneBuild.outcome pairIndex).index).index.published.symbols.untimed ≠
          ((loneBuild.outcome pairIndex).index.fullPass (editedProject "f" 0) snapshot 3
            ()).state.symbols.untimed := by
  refine ⟨create_pairIndex, .pass .start steady_loneBuild, steady_pairBuild, ?_⟩
  have checked :
      (pairBuild.outcome (loneBuild.outcome pairIndex).index).index.published.symbols.size = 2 ∧
      (pairBuild.outcome (loneBuild.outcome pairIndex).index).index.published.snapshot.any
        (fun snapshot => decide (AsksForPair
          ((loneBuild.outcome pairIndex).index.context (editedProject "f" 0) false 3)
          (Snapshot.diff none snapshot))) = true := by decide +kernel
  obtain ⟨published, asked⟩ := checked
  cases taken :
      (pairBuild.outcome (loneBuild.outcome pairIndex).index).index.published.snapshot with
  | none => simp [taken] at asked
  | some snapshot =>
    rw [taken] at asked
    refine ⟨snapshot, rfl, fun agree => ?_⟩
    have provided : (loneBuild.outcome pairIndex).index.provider = some pairProvider :=
      Reached.provider_eq create_pairIndex (.pass .start steady_loneBuild)
    have small : (loneBuild.outcome pairIndex).index.settings = smallSettings :=
      (Operation.pass loneBuild).settings_after pairIndex
    have asks := of_decide_eq_true asked
    have made : ((loneBuild.outcome pairIndex).index.fullUnpurged (editedProject "f" 0) snapshot 3
        ()).1.size = 2 := asks.size
    have sizes := (loneBuild.outcome pairIndex).index.size_fullPass (editedProject "f" 0) snapshot
      3 ()
    have evicts := asks.evicts provided small
    rw [made, ← SymbolTable.size_eq_of_untimed agree, published] at sizes
    omega

end Index

end SourceAtlas
