import SourceAtlas.Proofs.Embedding.Landing
import SourceAtlas.Proofs.Index.Provenance

/-!
# What a pass asks the provider for

A pass hands over one job for every symbol that its table lists for a parsed
file after all of them were stored (`texts_jobsFor_handed`). Every job comes back
with a vector that is stored, or is noted as a failure of embedding
(`embedSymbols_counts`), and the vectors of other symbols stay as they are.
-/

namespace SourceAtlas

namespace SymbolTable

variable {table : SymbolTable} {files : List ParsedFile} {symbol : Symbol} {id other : String}
  {now : Int}

/-- The table after parsed files were stored one after the other. -/
def withFiles (table : SymbolTable) (files : List ParsedFile) (now : Int) : SymbolTable :=
  files.foldl (fun table file => table.replaceFile file.path file.symbols now) table

/-- Files are stored one after the other. -/
theorem withFiles_cons (first : ParsedFile) (rest : List ParsedFile) :
    table.withFiles (first :: rest) now =
      (table.replaceFile first.path first.symbols now).withFiles rest now := rfl

/-- Storing other files leaves the ids of a file. -/
theorem idsOfFile_withFiles (own : ∀ file ∈ files, ∀ symbol ∈ file.symbols, symbol.file = file.path)
    (apart : ∀ file ∈ files, other ≠ file.path) :
    (table.withFiles files now).idsOfFile other = table.idsOfFile other := by
  induction files generalizing table with
  | nil => rfl
  | cons first rest inductionHypothesis =>
    obtain ⟨ownFirst, ownRest⟩ := List.forall_mem_cons.mp own
    obtain ⟨apartFirst, apartRest⟩ := List.forall_mem_cons.mp apart
    rw [withFiles_cons, inductionHypothesis ownRest apartRest,
      idsOfFile_replaceFile ownFirst apartFirst]

/-- A stored file lists the identifiers of its symbols. -/
theorem mem_idsOfFile_withFiles {file : ParsedFile} (distinct : (files.map ParsedFile.path).Nodup)
    (own : ∀ file ∈ files, ∀ symbol ∈ file.symbols, symbol.file = file.path)
    (member : file ∈ files) :
    id ∈ (table.withFiles files now).idsOfFile file.path ↔
      ∃ symbol ∈ file.symbols, symbol.id = id := by
  induction files generalizing table with
  | nil => cases member
  | cons first rest inductionHypothesis =>
    obtain ⟨ownFirst, ownRest⟩ := List.forall_mem_cons.mp own
    rw [List.map_cons, List.nodup_cons] at distinct
    obtain ⟨apart, distinct⟩ := distinct
    rw [withFiles_cons]
    rcases List.mem_cons.mp member with rfl | later
    · rw [idsOfFile_withFiles ownRest fun other inside same =>
          apart (List.mem_map.mpr ⟨other, inside, same.symm⟩),
        mem_idsOfFile_replaceFile ownFirst]
    · exact inductionHypothesis distinct ownRest later

/-- What is found under an identifier that is not stored was found before. -/
theorem get?_of_withFiles (absent : id ∉ (files.flatMap ParsedFile.symbols).map Symbol.id)
    (found : (table.withFiles files now).get? id = some symbol) : table.get? id = some symbol := by
  induction files generalizing table with
  | nil => exact found
  | cons first rest inductionHypothesis =>
    rw [List.flatMap_cons, List.map_append, List.mem_append, not_or] at absent
    obtain ⟨notFirst, notRest⟩ := absent
    have noneNew : (first.symbols.find? fun symbol => symbol.id = id) = none :=
      List.find?_eq_none.mpr fun symbol member same =>
        notFirst (of_decide_eq_true same ▸ List.mem_map_of_mem member)
    have before := inductionHypothesis notRest found
    rw [get?, symbols_replaceFile, noneNew, Option.none_or, symbols_removeFile] at before
    split at before
    · cases before
    · exact before

/-- What is found under an identifier that is stored has that identifier. -/
theorem id_of_withFiles (new : id ∈ (files.flatMap ParsedFile.symbols).map Symbol.id)
    (found : (table.withFiles files now).get? id = some symbol) : symbol.id = id := by
  induction files generalizing table with
  | nil => cases new
  | cons first rest inductionHypothesis =>
    by_cases later : id ∈ (rest.flatMap ParsedFile.symbols).map Symbol.id
    · exact inductionHypothesis later found
    · have before := get?_of_withFiles later found
      rw [List.flatMap_cons, List.map_append, List.mem_append, or_iff_left later] at new
      obtain ⟨listed, member, same⟩ := List.mem_map.mp new
      rw [get?, symbols_replaceFile] at before
      cases first : (first.symbols.find? fun symbol => symbol.id = id) with
      | none => exact absurd (decide_eq_true same) (List.find?_eq_none.mp first listed member)
      | some stored =>
        rw [first, Option.some_or] at before
        cases before
        simpa using List.find?_some first

/-- Files without colons share no symbols. -/
theorem nodup_ids_inFiles (distinct : (files.map ParsedFile.path).Nodup)
    (belong : ∀ file ∈ files, BelongTo file.symbols file.path) :
    ((files.flatMap fun file => (table.withFiles files now).inFile file.path).map
      Symbol.id).Nodup := by
  have own : ∀ file ∈ files, ∀ symbol ∈ file.symbols, symbol.file = file.path :=
    fun file member symbol inside => (belong file member symbol inside).1
  have keyed : ∀ file ∈ files, ∀ id ∈ (table.withFiles files now).idsOfFile file.path,
      ∀ symbol ∈ (table.withFiles files now).get? id, symbol.id = id := by
    intro file member id listed symbol found
    obtain ⟨new, inside, rfl⟩ := (mem_idsOfFile_withFiles distinct own member).mp listed
    refine id_of_withFiles (List.mem_map_of_mem ?_) found
    exact List.mem_flatMap.mpr ⟨file, member, inside⟩
  rw [List.map_flatMap, List.nodup_flatMap]
  constructor
  · intro file member
    rw [(ids_inFile_perm_filter (keyed file member)).nodup_iff]
    exact (nodup_idsOfFile _ _).filter _
  · refine (List.pairwise_map.mp distinct).imp_of_mem fun {first second} inside inside' apart => ?_
    have owner : ∀ file ∈ files, ∀ id ∈ ((table.withFiles files now).inFile file.path).map Symbol.id,
        Symbol.ownerOf id = file.path := by
      intro file member id named
      rw [(ids_inFile_perm_filter (keyed file member)).mem_iff, List.mem_filter] at named
      obtain ⟨new, within, rfl⟩ := (mem_idsOfFile_withFiles distinct own member).mp named.1
      exact (belong file member new within).2
    exact fun id one two =>
      apart ((owner first inside id one).symm.trans (owner second inside' id two))

end SymbolTable

/-- Every job comes back, with a vector or without. -/
theorem Provider.ids_embedAll_perm {σ : Type} (provider : Provider σ) (wanted : Nat)
    (jobs : List EmbeddingJob) (state : σ) :
    ((provider.embedAll wanted jobs state).1.vectors.map Prod.fst ++
      (provider.embedAll wanted jobs state).1.failed).Perm (jobs.map EmbeddingJob.symbolId) := by
  obtain ⟨calls, lands⟩ := Flight.reaches_embedAll provider 0 wanted jobs state
  have once := (Tally.keptBy_ids provider).perm_of_landed lands ⟨rfl, rfl⟩
  rwa [Provider.flatten_chunks (provider.batchSize_pos wanted), Tally.ids,
    ← List.map_eq_flatMap] at once

namespace PassContext

variable {σ : Type} {context : PassContext σ} {symbols : SymbolTable} {cache : EmbeddingCache}
  {contents : SymbolTable × EmbeddingCache} {files : List ParsedFile} {id : String}

/-! ## The files that a pass parses -/

/-- The parsed files come in the order of their records. -/
theorem paths_splitOutcomes (context : PassContext σ) (records : List FileRecord) :
    ((splitOutcomes (records.map context.parseFile)).2.map ParsedFile.path).Sublist
      (records.map FileRecord.path) := by
  induction records with
  | nil => exact .slnil
  | cons first rest inductionHypothesis =>
    rw [List.map_cons, List.map_cons]
    cases outcome : context.parseFile first with
    | error failure => exact inductionHypothesis.cons _
    | ok parsed =>
      rw [← (path_of_parseFile outcome).1]
      exact inductionHypothesis.cons_cons _

/-- No path is parsed twice. -/
theorem nodup_paths_parsedFiles {previous : Option Snapshot} {snapshot : Snapshot}
    (fresh : Snapshot.Fresh previous snapshot) (context : PassContext σ) :
    ((context.parsedFiles (Snapshot.diff previous snapshot)).map ParsedFile.path).Nodup :=
  ((context.paths_splitOutcomes _).trans (List.filter_sublist.map _)).nodup fresh.nodup_upserted

/-- Parsed files are tracked by the snapshot of their pass. -/
theorem mem_files_of_mem_parsedFiles {previous : Option Snapshot} {snapshot : Snapshot}
    (fresh : Snapshot.Fresh previous snapshot) {file : ParsedFile}
    (member : file ∈ context.parsedFiles (Snapshot.diff previous snapshot)) :
    file.path ∈ snapshot.files := by
  obtain ⟨record, asked, parsed⟩ := mem_splitOutcomes.mp member
  rw [(path_of_parseFile parsed).1]
  exact fresh.mem_files (List.mem_filter.mp asked).1

/-! ## The jobs of a pass -/

/-- The identifiers that a pass embeds are those that its table lists for the parsed files. -/
theorem handed_perm (contents : SymbolTable × EmbeddingCache) (now : Int)
    (distinct : (files.map ParsedFile.path).Nodup)
    (own : ∀ file ∈ files, ∀ symbol ∈ file.symbols, symbol.file = file.path) :
    (storeFiles now contents files).1.Perm
      (files.flatMap fun file => (contents.1.withFiles files now).idsOfFile file.path) := by
  induction files generalizing contents with
  | nil => exact .nil
  | cons first rest inductionHypothesis =>
    obtain ⟨ownFirst, ownRest⟩ := List.forall_mem_cons.mp own
    rw [List.map_cons, List.nodup_cons] at distinct
    obtain ⟨apart, distinctRest⟩ := distinct
    have later := inductionHypothesis (storeFile now contents first) distinctRest ownRest
    -- What is stored later lists nothing else for the first file.
    have kept : ((contents.1.replaceFile first.path first.symbols now).withFiles rest now).idsOfFile
        first.path = (contents.1.replaceFile first.path first.symbols now).idsOfFile first.path :=
      SymbolTable.idsOfFile_withFiles ownRest fun file member same =>
        apart (same ▸ List.mem_map_of_mem member)
    rw [List.flatMap_cons, SymbolTable.withFiles_cons, kept]
    refine List.Perm.append (SymbolTable.ids_inFile_perm fun id member => ?_) later
    exact SymbolTable.found_of_mem_idsOfFile_replaceFile ownFirst member

/-- The jobs of a file have the texts of its symbols. -/
theorem texts_jobsFor (symbols : SymbolTable) (file : String) :
    ((jobsFor symbols (symbols.idsOfFile file)).map EmbeddingJob.text).Perm
      ((symbols.inFile file).map Symbol.embeddingText) := by
  refine .trans (.of_eq ?_) ((List.mergeSort_perm _ _).symm.map _)
  rw [jobsFor, SymbolTable.lookup, List.map_filterMap, List.map_filterMap]
  refine List.filterMap_congr fun id _ => ?_
  cases symbols.get? id <;> rfl

/-- The texts that a pass embeds are those of the symbols that its table lists for the parsed
files. -/
theorem texts_jobsFor_handed (contents : SymbolTable × EmbeddingCache) (now : Int)
    (distinct : (files.map ParsedFile.path).Nodup)
    (own : ∀ file ∈ files, ∀ symbol ∈ file.symbols, symbol.file = file.path) :
    ((jobsFor (contents.1.withFiles files now) (storeFiles now contents files).1).map
      EmbeddingJob.text).Perm
      (files.flatMap fun file =>
        ((contents.1.withFiles files now).inFile file.path).map Symbol.embeddingText) := by
  refine .trans (((handed_perm contents now distinct own).filterMap _).map EmbeddingJob.text) ?_
  rw [List.filterMap_flatMap, List.map_flatMap]
  exact List.Perm.flatMap_left _ fun file _ => texts_jobsFor _ file.path

/-- Jobs are made for asked ids only. -/
theorem mem_ids_of_mem_jobsFor {ids : List String}
    (member : id ∈ (jobsFor symbols ids).map EmbeddingJob.symbolId) : id ∈ ids := by
  obtain ⟨job, listed, rfl⟩ := List.mem_map.mp member
  obtain ⟨other, inside, made⟩ := List.mem_filterMap.mp listed
  obtain ⟨symbol, -, rfl⟩ := Option.map_eq_some_iff.mp made
  exact inside

/-! ## What becomes of them -/

/-- A vector is stored or noted. -/
theorem storeVectors_counts (symbols : SymbolTable) (now : Int)
    (vectors : List (String × Embedding)) (cache : EmbeddingCache) :
    (storeVectors symbols now vectors cache).2.1 +
        (storeVectors symbols now vectors cache).1.length = vectors.length ∧
      ∀ failure ∈ (storeVectors symbols now vectors cache).1, failure.stage = .embedding := by
  induction vectors generalizing cache with
  | nil => exact ⟨rfl, by simp [storeVectors]⟩
  | cons first rest inductionHypothesis =>
    rw [storeVectors]
    split
    · next next accepted =>
      obtain ⟨counts, stages⟩ := inductionHypothesis next
      refine ⟨?_, stages⟩
      rw [List.length_cons, ← counts]
      exact Nat.succ_add _ _
    · obtain ⟨counts, stages⟩ := inductionHypothesis cache
      refine ⟨?_, List.forall_mem_cons.mpr ⟨rfl, stages⟩⟩
      exact congrArg (· + 1) counts

/-- A vector that is not offered leaves what is cached under its id. -/
theorem entries_storeVectors (symbols : SymbolTable) (now : Int)
    {vectors : List (String × Embedding)} (absent : id ∉ vectors.map Prod.fst)
    (cache : EmbeddingCache) :
    (storeVectors symbols now vectors cache).2.2.get? id = cache.get? id := by
  induction vectors generalizing cache with
  | nil => rfl
  | cons first rest inductionHypothesis =>
    rw [List.map_cons, List.mem_cons, not_or] at absent
    obtain ⟨apart, absent⟩ := absent
    rw [storeVectors]
    split
    · next next accepted =>
      obtain ⟨-, -, rfl⟩ := EmbeddingCache.insert_eq_ok_iff.mp accepted
      refine (inductionHypothesis absent _).trans ?_
      rw [EmbeddingCache.get?, Std.ExtTreeMap.getElem?_insert, if_neg (by simpa using Ne.symm apart)]
      rfl
    · exact inductionHypothesis absent cache

section

variable (context : PassContext σ) (symbols : SymbolTable) (cache : EmbeddingCache)
  (jobs : List EmbeddingJob) (outcome : BatchOutcome) (settled : List Nat) (state : σ)

/-- Whatever came back is stored or noted. -/
theorem gather_counts :
    (context.gather symbols cache jobs outcome settled state).generated +
      (context.gather symbols cache jobs outcome settled state).failures.length =
        outcome.size := by
  have counts := (storeVectors_counts symbols context.now outcome.vectors cache).1
  simp only [gather, List.length_append, List.length_map, BatchOutcome.size]
  rw [← counts, Nat.add_assoc]

/-- Gathered failures are failures to embed. -/
theorem stage_of_mem_gather :
    ∀ failure ∈ (context.gather symbols cache jobs outcome settled state).failures,
      failure.stage = .embedding := by
  intro failure member
  rcases List.mem_append.mp member with refused | failed
  · exact (storeVectors_counts _ _ _ _).2 failure refused
  · obtain ⟨id, -, rfl⟩ := List.mem_map.mp failed
    rfl

/-- The vectors of symbols for which nothing came back stay as they are. -/
theorem entries_gather (absent : id ∉ outcome.vectors.map Prod.fst) :
    (context.gather symbols cache jobs outcome settled state).cache.get? id = cache.get? id :=
  entries_storeVectors symbols context.now absent cache

end

/-- With a provider every job ends in a stored vector or in a failure. -/
theorem embedSymbols_counts {provider : Provider σ} (provided : context.provider = some provider)
    (symbols : SymbolTable) (cache : EmbeddingCache) (ids : List String) (state : σ) :
    (context.embedSymbols symbols cache ids state).generated +
      (context.embedSymbols symbols cache ids state).failures.length =
        (jobsFor symbols ids).length := by
  have back := (provider.ids_embedAll_perm context.settings.embeddings.batchSize
    (jobsFor symbols ids) state).length_eq
  simp only [List.length_append, List.length_map] at back
  rw [embedSymbols, provided]
  exact (context.gather_counts ..).trans back

/-- The failures of the embedding stage are failures to embed. -/
theorem stage_of_mem_embedSymbols {ids : List String} {state : σ} :
    ∀ failure ∈ (context.embedSymbols symbols cache ids state).failures,
      failure.stage = .embedding := by
  rw [embedSymbols]
  split
  · simp
  · next provider provided => exact stage_of_mem_gather context symbols cache _ _ _ _

/-- The vectors of symbols that are not embedded stay as they are. -/
theorem entries_embedSymbols {ids : List String} (absent : id ∉ ids) (context : PassContext σ)
    (symbols : SymbolTable) (cache : EmbeddingCache) (state : σ) :
    (context.embedSymbols symbols cache ids state).cache.get? id = cache.get? id := by
  rw [embedSymbols]
  split
  · rfl
  · next provider provided =>
    refine context.entries_gather symbols cache _ _ _ _ fun member => ?_
    have back := (provider.ids_embedAll_perm context.settings.embeddings.batchSize
      (jobsFor symbols ids) state).mem_iff.mp (List.mem_append_left _ member)
    exact absent (mem_ids_of_mem_jobsFor back)

/-! ## The embedding of a pass -/

section

variable {changes : ChangeSet}

/-- The contents of a pass when all that it parsed is stored, with the identifiers to embed. -/
def stored (context : PassContext σ) (base : IndexState) (changes : ChangeSet) :
    List String × SymbolTable × EmbeddingCache :=
  storeFiles context.now
    ((dropped changes (context.parsedFiles changes)).foldl dropFile base.contents)
    (context.parsedFiles changes)

/-- The jobs of a pass. -/
def jobs (context : PassContext σ) (base : IndexState) (changes : ChangeSet) : List EmbeddingJob :=
  jobsFor (context.stored base changes).2.1 (context.stored base changes).1

/-- The symbols that a pass has stored for the files it parsed. -/
def handed (context : PassContext σ) (base : IndexState) (changes : ChangeSet) : List Symbol :=
  (context.parsedFiles changes).flatMap fun file =>
    (context.stored base changes).2.1.inFile file.path

/-- Embedding, the last stage before the purge, leaves the symbols alone. -/
theorem fst_unpurged (context : PassContext σ) (base : IndexState) (changes : ChangeSet)
    (provider : σ) :
    (context.unpurged base changes provider).1 = (context.stored base changes).2.1 := rfl

/-- Without colons, no symbol is handed over twice. -/
theorem nodup_ids_handed (distinct : ((context.parsedFiles changes).map ParsedFile.path).Nodup)
    (colonFree : ∀ file ∈ context.parsedFiles changes, ColonFree file.path)
    (base : IndexState) : ((context.handed base changes).map Symbol.id).Nodup := by
  rw [handed, stored, symbols_storeFiles]
  exact SymbolTable.nodup_ids_inFiles distinct fun file member =>
    belongTo_of_mem_parsedFiles member (colonFree file member)

/-- What is embedded in a pass. -/
def embedded (context : PassContext σ) (base : IndexState) (changes : ChangeSet) (provider : σ) :
    EmbeddingStep σ :=
  let stored := context.stored base changes
  context.embedSymbols stored.2.1 stored.2.2 stored.1 provider

/-- The jobs of a pass are those of the symbols that it stored for the files it parsed. -/
theorem texts_jobs (distinct : ((context.parsedFiles changes).map ParsedFile.path).Nodup)
    (base : IndexState) :
    ((context.jobs base changes).map EmbeddingJob.text).Perm
      ((context.handed base changes).map Symbol.embeddingText) := by
  have texts := texts_jobsFor_handed ((dropped changes (context.parsedFiles changes)).foldl dropFile
    base.contents) context.now distinct fun _ member => file_of_mem_parsedFiles member
  rw [handed, List.map_flatMap, jobs, stored, symbols_storeFiles]
  exact texts

/-- With a provider, every symbol that a pass stored for its parsed files is embedded or noted. -/
theorem embedded_counts {asked : Provider σ} (provided : context.provider = some asked)
    (distinct : ((context.parsedFiles changes).map ParsedFile.path).Nodup) (base : IndexState)
    (provider : σ) :
    (context.embedded base changes provider).generated +
      (context.embedded base changes provider).failures.length =
        (context.handed base changes).length := by
  have size := (context.texts_jobs distinct base).length_eq
  rw [List.length_map, List.length_map] at size
  rw [embedded, embedSymbols_counts provided, ← size, jobs]

end

end PassContext

end SourceAtlas
