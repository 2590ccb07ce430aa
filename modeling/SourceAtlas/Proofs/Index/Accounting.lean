import SourceAtlas.Proofs.Index.Jobs

/-!
# The figures of a pass

A pass counts in four places: nodes in its graph, failures by their stage,
vectors that were stored and symbols that were evicted. Together they count
every file of the snapshot, every entry that could not be read, every symbol and
every job once.
-/

namespace SourceAtlas

namespace FailureReport

variable {failures first second : List Failure} {stage : Stage}

/-- The failures of a stage in two lists are those of each, in order. -/
theorem ofStage_append (first second : List Failure) (stage : Stage) :
    ofStage ⟨first ++ second⟩ stage = ofStage ⟨first⟩ stage ++ ofStage ⟨second⟩ stage :=
  List.filter_append first second

/-- If all failures are of a stage, its part is the whole list. -/
theorem ofStage_eq_self (all : ∀ failure ∈ failures, failure.stage = stage) :
    ofStage ⟨failures⟩ stage = failures :=
  List.filter_eq_self.mpr fun failure member => decide_eq_true (all failure member)

/-- If no failure is of a stage, its part has none. -/
theorem ofStage_eq_nil (none : ∀ failure ∈ failures, failure.stage ≠ stage) :
    ofStage ⟨failures⟩ stage = [] :=
  List.filter_eq_nil_iff.mpr fun failure member => by simpa using none failure member

/-- Every failure has one stage. -/
theorem length_ofStage (report : FailureReport) :
    (report.ofStage .read).length + (report.ofStage .parse).length +
      (report.ofStage .embedding).length = report.total := by
  obtain ⟨failures⟩ := report
  induction failures with
  | nil => rfl
  | cons failure rest inductionHypothesis =>
    simp only [ofStage, total, List.filter_cons, List.length_cons] at inductionHypothesis ⊢
    cases failure.stage <;> simp <;> omega

/-- The groups by stage hold every failure once. -/
theorem sum_byStage (report : FailureReport) :
    (report.byStage.map fun group => group.2.length).sum = report.total := by
  have groups : ∀ groups : List (Stage × List Failure),
      ((groups.filter fun group => !group.2.isEmpty).map fun group => group.2.length).sum =
        (groups.map fun group => group.2.length).sum := by
    intro groups
    induction groups with
    | nil => rfl
    | cons group rest inductionHypothesis =>
      rw [List.filter_cons]
      split
      · simp [inductionHypothesis]
      · next vacant => simp_all
  rw [byStage, groups, ← report.length_ofStage]
  simp [Stage.all, Nat.add_assoc]

end FailureReport

namespace ImportGraph

/-- New dependents leave the number of nodes. -/
theorem size_withDependents (graph : ImportGraph) : graph.withDependents.size = graph.size := by
  rw [size, size, withDependents, Std.ExtTreeMap.size_map]

/-- Nodes of different files are all in the graph that is built of them. -/
theorem size_build {nodes : List Graph.Node} (distinct : (nodes.map Graph.Node.file).Nodup)
    (resolver : Graph.Resolver) (known : FileSet) :
    (build resolver nodes known).size = nodes.length := by
  have inserted := FileMap.size_foldl_insert Graph.Node.file
    (fun node => node.resolved resolver known) distinct ∅ (by simp)
  rw [build, size_withDependents, size, inserted, Std.ExtTreeMap.size_empty, Nat.zero_add]

end ImportGraph

/-- Items sorted into the classes of different keys are the items of these keys. -/
theorem flatMap_filter_perm {α : Type} (keyOf : α → String) {keys : List String}
    (distinct : keys.Nodup) (items : List α) :
    (keys.flatMap fun key => items.filter fun item => keyOf item = key).Perm
      (items.filter fun item => keyOf item ∈ keys) := by
  induction keys with
  | nil => simp
  | cons first rest inductionHypothesis =>
    obtain ⟨apart, distinct⟩ := List.nodup_cons.mp distinct
    have split := List.filter_append_perm (fun item => decide (keyOf item = first))
      (items.filter fun item => decide (keyOf item ∈ first :: rest))
    rw [List.filter_filter, List.filter_filter] at split
    refine .trans ?_ split
    rw [List.flatMap_cons]
    refine .append (.of_eq ?_) ((inductionHypothesis distinct).trans (.of_eq ?_))
    · refine List.filter_congr fun item _ => ?_
      by_cases same : keyOf item = first <;> simp [same]
    · refine List.filter_congr fun item _ => ?_
      by_cases same : keyOf item = first <;> simp [same, apart]

namespace SymbolTable

variable {table : SymbolTable} {files : List ParsedFile} {now : Int}

/-- There is nothing to remove from a table without symbols. -/
theorem removeFile_empty (path : String) : empty.removeFile path = empty := by
  have none : empty.idsOfFile path = [] := by simp [idsOfFile, Buckets.ids, empty]
  rw [removeFile_eq, none]
  simp [empty]

/-- What is stored over a table that lists nothing for the files is found beside what was there. -/
theorem contains_withFiles_iff {id : String} (distinct : (files.map ParsedFile.path).Nodup)
    (own : ∀ file ∈ files, ∀ symbol ∈ file.symbols, symbol.file = file.path)
    (vacant : ∀ file ∈ files, table.idsOfFile file.path = []) :
    (table.withFiles files now).contains id = true ↔
      table.contains id = true ∨ id ∈ (files.flatMap ParsedFile.symbols).map Symbol.id := by
  induction files generalizing table with
  | nil => simp [withFiles]
  | cons first rest inductionHypothesis =>
    obtain ⟨ownFirst, ownRest⟩ := List.forall_mem_cons.mp own
    obtain ⟨vacantFirst, vacantRest⟩ := List.forall_mem_cons.mp vacant
    rw [List.map_cons, List.nodup_cons] at distinct
    obtain ⟨apart, distinctRest⟩ := distinct
    have vacantLater : ∀ file ∈ rest,
        (table.replaceFile first.path first.symbols now).idsOfFile file.path = [] := by
      intro file member
      have other : file.path ≠ first.path := fun same =>
        apart (same ▸ List.mem_map_of_mem member)
      rw [idsOfFile_replaceFile ownFirst other, vacantRest file member]
    have stored : (table.replaceFile first.path first.symbols now).contains id = true ↔
        id ∈ first.symbols.map Symbol.id ∨ table.contains id = true := by
      rw [contains_iff, contains_iff, symbols_replaceFile, SymbolTable.symbols_removeFile,
        vacantFirst, if_neg List.not_mem_nil, Option.isSome_or, Bool.or_eq_true, List.find?_isSome]
      simp
    rw [withFiles_cons, inductionHypothesis distinctRest ownRest vacantLater, stored,
      List.flatMap_cons, List.map_append, List.mem_append]
    tauto

/-- A table has as many symbols as there are different identifiers in a list of all of them. -/
theorem size_eq_of_mem_iff {ids : List String} (same : ∀ id, table.contains id = true ↔ id ∈ ids) :
    table.size = ids.dedup.length := by
  have listed : table.ids.Perm ids.dedup := by
    refine (List.perm_ext_iff_of_nodup Std.ExtTreeMap.nodup_keys (List.nodup_dedup ids)).mpr ?_
    intro id
    rw [List.mem_dedup, ← same id, contains, Std.ExtTreeMap.contains_iff_mem]
    exact Std.ExtTreeMap.mem_keys
  rw [← listed.length_eq]
  exact Std.ExtTreeMap.length_keys.symm

end SymbolTable

namespace PassContext

variable {σ : Type} {context : PassContext σ} {base : IndexState} {snapshot : Snapshot}
  {changes : ChangeSet} {provider : σ}

/-! ## Files -/

/-- The files that a pass could not read or parse. -/
def unparsed (context : PassContext σ) (changes : ChangeSet) : List Failure :=
  (splitOutcomes ((context.toParse changes).map context.parseFile)).1

/-- Every outcome is a parsed file or a failure. -/
theorem length_splitOutcomes (outcomes : List (Except Failure ParsedFile)) :
    (splitOutcomes outcomes).2.length + (splitOutcomes outcomes).1.length = outcomes.length := by
  induction outcomes with
  | nil => rfl
  | cons first rest inductionHypothesis =>
    cases first <;> simp only [splitOutcomes, List.length_cons] <;> omega

/-- A file fails to be read or to be parsed, never to be embedded. -/
theorem stage_of_parseFile {record : FileRecord} {failure : Failure}
    (failed : context.parseFile record = .error failure) : failure.stage ≠ .embedding := by
  rw [parseFile] at failed
  split at failed
  · cases failed
    exact Stage.noConfusion
  · split at failed
    · cases failed
      exact Stage.noConfusion
    · cases failed

/-- Files left out of a pass failed before they were embedded. -/
theorem stage_of_mem_unparsed : ∀ failure ∈ context.unparsed changes, failure.stage ≠ .embedding := by
  rw [unparsed]
  induction context.toParse changes with
  | nil => simp [splitOutcomes]
  | cons first rest inductionHypothesis =>
    rw [List.map_cons]
    cases outcome : context.parseFile first with
    | ok parsed => exact inductionHypothesis
    | error failure =>
      exact List.forall_mem_cons.mpr ⟨stage_of_parseFile outcome, inductionHypothesis⟩

/-- The entries that a capture could not read. -/
def unreadable (snapshot : Snapshot) : List Failure :=
  snapshot.skipped.map fun entry =>
    { path := entry.path, reason := entry.reason, stage := .read }

/-- The failures of a pass. -/
def noted (context : PassContext σ) (base : IndexState) (snapshot : Snapshot) (changes : ChangeSet)
    (provider : σ) : FailureReport :=
  ⟨unreadable snapshot ++ context.unparsed changes ++
    (context.embedded base changes provider).failures⟩

/-- Files skipped by a capture failed to be read. -/
theorem stage_of_mem_unreadable : ∀ failure ∈ unreadable snapshot, failure.stage = .read := by
  intro failure member
  obtain ⟨entry, -, rfl⟩ := List.mem_map.mp member
  rfl

/-- A pass notes the entries that its capture could not read, the files that it could not read or
parse, and the symbols that it could not embed. -/
theorem length_ofStage_noted (context : PassContext σ) (base : IndexState) (snapshot : Snapshot)
    (changes : ChangeSet) (provider : σ) :
    ((context.noted base snapshot changes provider).ofStage .read).length +
        ((context.noted base snapshot changes provider).ofStage .parse).length =
          snapshot.skipped.length + (context.unparsed changes).length ∧
      ((context.noted base snapshot changes provider).ofStage .embedding).length =
        (context.embedded base changes provider).failures.length := by
  have embedding : ((context.noted base snapshot changes provider).ofStage .embedding) =
      (context.embedded base changes provider).failures := by
    have unread : FailureReport.ofStage ⟨unreadable snapshot⟩ .embedding = [] :=
      FailureReport.ofStage_eq_nil fun failure member => by
        rw [stage_of_mem_unreadable failure member]
        decide
    rw [noted, FailureReport.ofStage_append, FailureReport.ofStage_append, unread,
      FailureReport.ofStage_eq_nil stage_of_mem_unparsed, FailureReport.ofStage_eq_self,
      List.nil_append, List.nil_append]
    exact stage_of_mem_embedSymbols
  have all := (context.noted base snapshot changes provider).length_ofStage
  rw [embedding] at all ⊢
  simp only [FailureReport.total, noted, unreadable, List.length_append, List.length_map] at all
  exact ⟨Nat.add_right_cancel all, rfl⟩

/-- The graph of a pass. -/
def reworkedGraph (context : PassContext σ) (base : IndexState) (snapshot : Snapshot)
    (changes : ChangeSet) : ImportGraph :=
  context.nextGraph base.graph changes ((context.parsedFiles changes).map ParsedFile.node)
    (dropped changes (context.parsedFiles changes)) (Snapshot.knownFiles snapshot.files)

/-- A pass that is not idle, by its parts. -/
theorem rework_eq (context : PassContext σ) (base : IndexState) (snapshot : Snapshot)
    (changes : ChangeSet) (provider : σ) :
    context.rework base snapshot changes provider =
      let unpurged := context.unpurged base changes provider
      let settled := context.settle unpurged
      let embedded := context.embedded base changes provider
      let noted := context.noted base snapshot changes provider
      let graph := context.reworkedGraph base snapshot changes
      { state :=
          { snapshot := some snapshot
            symbols := settled.1
            graph
            embeddings := settled.2
            stats :=
              { totalSymbols := settled.1.size
                filesIndexed := graph.size
                filesSkipped := (noted.ofStage .read).length + (noted.ofStage .parse).length
                megabytes := megabytesOf (settled.2.estimatedBytes settled.1)
                lastUpdated := context.now
                embeddingsGenerated := embedded.generated
                embeddingsFailed := (noted.ofStage .embedding).length
                symbolsEvicted := (context.evicted unpurged).length
                changes := changes.counts
                incremental := context.incremental }
            failures := some noted }
        events := parsingEvents (context.toParse changes).length ++
          { step := .finalizing } :: embedded.progress
        provider := embedded.provider
        skipped := (noted.ofStage .read).length + (noted.ofStage .parse).length
        evicted := (context.evicted unpurged).length } := rfl

/-- The failures of a pass are those it noted. -/
theorem failures_rework :
    (context.rework base snapshot changes provider).state.failures =
      some (context.noted base snapshot changes provider) := rfl

/-- Skipped are the files the capture skipped and those that did not parse. -/
theorem filesSkipped_rework :
    (context.rework base snapshot changes provider).state.stats.filesSkipped =
      snapshot.skipped.length + (context.unparsed changes).length :=
  (context.length_ofStage_noted base snapshot changes provider).1

/-- The embeddings that failed are counted by their failures. -/
theorem embeddingsFailed_rework (context : PassContext σ) (base : IndexState)
    (snapshot : Snapshot) (changes : ChangeSet) (provider : σ) :
    (context.rework base snapshot changes provider).state.stats.embeddingsFailed =
      (context.embedded base changes provider).failures.length :=
  (context.length_ofStage_noted base snapshot changes provider).2

/-- A pass from nothing builds a graph of the files that it parsed. -/
theorem filesIndexed_rework (full : context.incremental = false)
    (distinct : ((context.parsedFiles changes).map ParsedFile.path).Nodup) :
    (context.rework base snapshot changes provider).state.stats.filesIndexed =
      (context.parsedFiles changes).length := by
  have graph : context.reworkedGraph base snapshot changes =
      ImportGraph.build context.settings.dependencies.resolver
        ((context.parsedFiles changes).map ParsedFile.node) (Snapshot.knownFiles snapshot.files) := by
    rw [reworkedGraph, nextGraph, full]
    rfl
  have named : ((context.parsedFiles changes).map ParsedFile.node).map Graph.Node.file =
      (context.parsedFiles changes).map ParsedFile.path := by
    rw [List.map_map]
    refine List.map_congr_left fun file member => ?_
    obtain ⟨record, -, parsed⟩ := mem_splitOutcomes.mp member
    obtain ⟨path, node⟩ := path_of_parseFile parsed
    exact node.trans path.symm
  rw [rework_eq]
  dsimp only
  rw [graph, ImportGraph.size_build (named ▸ distinct), List.length_map]

/-- Without an earlier snapshot every file that can be indexed is parsed. -/
theorem length_toParse_of_none (keyed : Keyed snapshot.files) (context : PassContext σ) :
    (context.toParse (Snapshot.diff none snapshot)).length =
      (snapshot.files.keys.filter context.isIndexable).length := by
  rw [toParse, ChangeSet.upserted, Snapshot.diff, List.append_nil, FileMap.values_eq,
    ← Std.ExtTreeMap.map_fst_toList_eq_keys, List.filter_map, List.filter_map, List.length_map,
    List.length_map]
  refine congrArg List.length (List.filter_congr fun entry member => ?_)
  have own := keyed.path_eq (Std.ExtTreeMap.mem_toList_iff_getElem?_eq_some.mp member)
  simp [own]

/-- A pass from nothing indexes or skips every file that is parsed. -/
theorem files_rework_of_none (full : context.incremental = false) (keyed : Keyed snapshot.files) :
    (context.rework base snapshot (Snapshot.diff none snapshot) provider).state.stats.filesIndexed +
      (context.rework base snapshot (Snapshot.diff none snapshot)
        provider).state.stats.filesSkipped =
      (snapshot.files.keys.filter context.isIndexable).length + snapshot.skipped.length := by
  have outcomes := length_splitOutcomes
    ((context.toParse (Snapshot.diff none snapshot)).map context.parseFile)
  rw [List.length_map, length_toParse_of_none keyed] at outcomes
  rw [filesIndexed_rework full (context.nodup_paths_parsedFiles (Snapshot.fresh_of_keyed keyed none)),
    filesSkipped_rework, ← outcomes, parsedFiles, unparsed]
  omega

/-! ## Symbols -/

/-- The symbols before the eviction are those left and those evicted. -/
theorem symbols_rework_size (listed : base.symbols.Listed) :
    (context.rework base snapshot changes provider).state.stats.totalSymbols +
      (context.rework base snapshot changes provider).state.stats.symbolsEvicted =
        (context.unpurged base changes provider).1.size :=
  MemoryBudget.size_enforce _ (listed_unpurged listed context changes provider).identified _

/-- A pass from nothing stores every symbol that it parsed, those of one identifier once. -/
theorem size_unpurged_empty (distinct : ((context.parsedFiles changes).map ParsedFile.path).Nodup) :
    (context.unpurged .empty changes provider).1.size =
      (((context.parsedFiles changes).flatMap ParsedFile.symbols).map Symbol.id).dedup.length := by
  have start : (dropped changes (context.parsedFiles changes)).foldl SymbolTable.removeFile
      IndexState.empty.symbols = .empty :=
    List.foldlRecOn (motive := (· = SymbolTable.empty)) _ _ rfl fun _ same path _ =>
      same ▸ SymbolTable.removeFile_empty path
  have stored : (context.unpurged .empty changes provider).1 =
      SymbolTable.empty.withFiles (context.parsedFiles changes) context.now := by
    rw [symbols_unpurged, start]
    rfl
  refine SymbolTable.size_eq_of_mem_iff fun id => ?_
  rw [stored,
    SymbolTable.contains_withFiles_iff distinct fun _ member => file_of_mem_parsedFiles member]
  · simp [SymbolTable.contains, SymbolTable.empty]
  · intro file _
    simp [SymbolTable.idsOfFile, Buckets.ids, SymbolTable.empty]

/-- From nothing, and without colons, all that a pass stored is stored for the files it parsed. -/
theorem length_handed_empty (keyed : Keyed snapshot.files)
    (colonFree : ∀ path ∈ snapshot.files, ColonFree path) (context : PassContext σ) (provider : σ) :
    (context.handed .empty (Snapshot.diff none snapshot)).length =
      (context.unpurged .empty (Snapshot.diff none snapshot) provider).1.size := by
  have advances : Advances context context .empty snapshot := .fromEmpty keyed colonFree
  have stores := advances.stores
  have unpurged := context.symbols_unpurged .empty (Snapshot.diff none snapshot) provider
  have indexed : (context.unpurged .empty (Snapshot.diff none snapshot) provider).1.Indexed :=
    unpurged ▸ stores.owned.toIndexed
  have listed : (context.unpurged .empty (Snapshot.diff none snapshot) provider).1.Listed :=
    listed_unpurged SymbolTable.listed_empty context _ provider
  generalize stored : (context.unpurged .empty (Snapshot.diff none snapshot) provider).1 = table at *
  -- Every symbol is of a file that was parsed.
  have parsed : ∀ symbol ∈ table.toList, symbol.file ∈
      (context.parsedFiles (Snapshot.diff none snapshot)).map ParsedFile.path := by
    intro symbol member
    obtain ⟨id, found⟩ := FileMap.mem_values_iff.mp member
    rcases holds_of_unpurged (stored ▸ listed.listed found) with ⟨file, inside, same, -⟩ | ⟨before, -⟩
    · exact same ▸ List.mem_map_of_mem inside
    · simp [IndexState.empty] at before
  have sorted := flatMap_filter_perm Symbol.file
    (context.nodup_paths_parsedFiles (Snapshot.fresh_of_keyed keyed none)) table.toList
  rw [List.filter_eq_self.mpr fun symbol member => decide_eq_true (parsed symbol member)] at sorted
  rw [← SymbolTable.length_toList, ← sorted.length_eq, List.flatMap_map, handed,
    ← context.fst_unpurged .empty _ provider]
  refine (List.Perm.flatMap_left _ fun file _ => ?_).length_eq
  rw [stored, indexed.inFile_eq]
  exact List.mergeSort_perm _ _

end PassContext

namespace Visit

variable {σ : Type} {visit : Visit σ} {index : Index σ} {stats : PassStats}

/-- The files that the pass over a snapshot parses. -/
def parsedFiles (visit : Visit σ) (index : Index σ) (snapshot : Snapshot) : List ParsedFile :=
  (visit.context index).parsedFiles (visit.changes index snapshot)

/-- The symbols that the pass over a snapshot has stored for the files it parsed, before it purges
and evicts. -/
def handed (visit : Visit σ) (index : Index σ) (snapshot : Snapshot) : List Symbol :=
  (visit.context index).handed (visit.base index) (visit.changes index snapshot)

/-- The figures of a pass count everything once. A full pass indexes or skips each file that can be
parsed and each entry that could not be read, and keeps or evicts each symbol that it parsed; with a
provider each symbol that was stored for a parsed file is embedded or noted. -/
structure Accounts (visit : Visit σ) (index : Index σ) (snapshot : Snapshot) (stats : PassStats)
    (report : FailureReport) : Prop where
  stages : (report.byStage.map fun group => group.2.length).sum = report.total
  errors : report.total = stats.filesSkipped + stats.embeddingsFailed
  files : visit.isIncremental index = false →
    stats.filesIndexed + stats.filesSkipped =
      (snapshot.files.keys.filter (visit.context index).isIndexable).length +
        snapshot.skipped.length
  symbols : visit.isIncremental index = false →
    stats.totalSymbols + stats.symbolsEvicted =
      (((visit.parsedFiles index snapshot).flatMap ParsedFile.symbols).map Symbol.id).dedup.length
  embedded : index.provider.isSome →
    stats.embeddingsGenerated + stats.embeddingsFailed = (visit.handed index snapshot).length
  distinct : (∀ path ∈ snapshot.files, ColonFree path) →
    ((visit.handed index snapshot).map Symbol.id).Nodup
  whole : visit.isIncremental index = false → index.provider.isSome →
    (∀ path ∈ snapshot.files, ColonFree path) →
    stats.embeddingsGenerated + stats.embeddingsFailed = stats.totalSymbols + stats.symbolsEvicted

/-- A pass that is not idle reworks the contents. -/
theorem made_of_busy {snapshot : Snapshot}
    (busy : (visit.isIncremental index && (visit.changes index snapshot).isEmpty) = false) :
    visit.made index snapshot = (visit.context index).rework (visit.base index) snapshot
      (visit.changes index snapshot) visit.workspace.provider :=
  if_neg (Bool.eq_false_iff.mp busy)

/-- A full pass captures the tree and starts from nothing. -/
theorem Takes.of_full {snapshot : Snapshot} (takes : visit.Takes index snapshot)
    (full : visit.isIncremental index = false) :
    visit.base index = .empty ∧ Keyed snapshot.files := by
  cases takes with
  | capture request goes captured =>
    exact ⟨by rw [base, full]; rfl, Snapshot.keyed_capture captured⟩
  | records request => simp [isIncremental, request] at full

/-- What is embedded or noted in a pass over the snapshot of a request. -/
theorem Takes.embedded_counts {snapshot : Snapshot} (takes : visit.Takes index snapshot)
    (provided : index.provider.isSome) :
    ((visit.context index).embedded (visit.base index) (visit.changes index snapshot)
        visit.workspace.provider).generated +
      ((visit.context index).embedded (visit.base index) (visit.changes index snapshot)
        visit.workspace.provider).failures.length = (visit.handed index snapshot).length := by
  obtain ⟨provider, same⟩ := Option.isSome_iff_exists.mp provided
  have provided : (visit.context index).provider = some provider := same
  exact PassContext.embedded_counts provided
    ((visit.context index).nodup_paths_parsedFiles takes.fresh) (visit.base index)
    visit.workspace.provider

/-- A request that succeeds without being idle publishes the failures of its pass and answers with
figures that account for all of it. -/
theorem accounts_of_ok (succeeds : (visit.outcome index).result = .ok stats) :
    ∃ snapshot, (visit.outcome index).index.published.snapshot = some snapshot ∧
      ((visit.isIncremental index && (visit.changes index snapshot).isEmpty) = false →
        ∃ report, (visit.outcome index).index.published.failures = some report ∧
          visit.Accounts index snapshot stats report) := by
  obtain ⟨snapshot, takes⟩ := takes_of_ok succeeds
  obtain ⟨published, answered⟩ := takes.published
  obtain rfl := Except.ok.inj (succeeds.symm.trans answered)
  refine ⟨snapshot, published ▸ PassContext.snapshot_apply, fun busy => ?_⟩
  rw [published, made_of_busy busy]
  refine ⟨_, PassContext.failures_rework, ?_⟩
  have distinct : ((visit.parsedFiles index snapshot).map ParsedFile.path).Nodup :=
    (visit.context index).nodup_paths_parsedFiles takes.fresh
  have embedded (provided : index.provider.isSome) := takes.embedded_counts provided
  have failed := (visit.context index).embeddingsFailed_rework (visit.base index) snapshot
    (visit.changes index snapshot) visit.workspace.provider
  constructor
  case stages => exact FailureReport.sum_byStage _
  case errors => exact (FailureReport.length_ofStage _).symm
  case embedded =>
    intro provided
    rw [failed]
    exact embedded provided
  case distinct =>
    intro colonFree
    exact PassContext.nodup_ids_handed distinct
      (fun file member => colonFree _ (PassContext.mem_files_of_mem_parsedFiles takes.fresh member))
      (visit.base index)
  case files =>
    intro full
    obtain ⟨start, keyed⟩ := takes.of_full full
    rw [changes, start]
    exact PassContext.files_rework_of_none full keyed
  case symbols =>
    intro full
    obtain ⟨start, keyed⟩ := takes.of_full full
    rw [PassContext.symbols_rework_size (start ▸ SymbolTable.listed_empty), start]
    exact PassContext.size_unpurged_empty distinct
  case whole =>
    intro full provided colonFree
    obtain ⟨start, keyed⟩ := takes.of_full full
    rw [failed, PassContext.symbols_rework_size (start ▸ SymbolTable.listed_empty)]
    refine (embedded provided).trans ?_
    rw [handed, changes, start]
    exact PassContext.length_handed_empty keyed colonFree (visit.context index) _

end Visit

namespace Index

/-- The first build of two files with a provider that fails once: of the two symbols one is embedded
and one is noted. -/
theorem moodyBuild_accounts :
    ∃ stats snapshot report, (moodyBuild.outcome moodyIndex).result = .ok stats ∧
      (moodyBuild.isIncremental moodyIndex &&
        (moodyBuild.changes moodyIndex snapshot).isEmpty) = false ∧
      (moodyBuild.outcome moodyIndex).index.published.failures = some report ∧
      moodyBuild.Accounts moodyIndex snapshot stats report ∧
      stats.filesIndexed = 2 ∧ stats.totalSymbols = 2 ∧ stats.embeddingsGenerated = 1 ∧
      stats.embeddingsFailed = 1 := by
  have figures : ((moodyBuild.outcome moodyIndex).result.toOption.map fun stats =>
      [stats.filesIndexed, stats.totalSymbols, stats.embeddingsGenerated,
        stats.embeddingsFailed]) = some [2, 2, 1, 1] := by
    decide +kernel
  obtain ⟨stats, found, same⟩ := Option.map_eq_some_iff.mp figures
  simp only [List.cons.injEq, and_true] at same
  have succeeds := eq_ok_of_toOption found
  obtain ⟨snapshot, -, accounts⟩ := Visit.accounts_of_ok succeeds
  have busy : (moodyBuild.isIncremental moodyIndex &&
      (moodyBuild.changes moodyIndex snapshot).isEmpty) = false := by
    rw [show moodyBuild.isIncremental moodyIndex = false by decide +kernel, Bool.false_and]
  obtain ⟨report, published, accounts⟩ := accounts busy
  exact ⟨stats, snapshot, report, succeeds, busy, published, accounts, same⟩

end Index

end SourceAtlas
