import Mathlib.Data.List.Forall2
import SourceAtlas.Proofs.Embedding.Recency
import SourceAtlas.Proofs.Index.Restore
import SourceAtlas.Proofs.Index.Taken
import SourceAtlas.Proofs.Symbol.Listing

/-!
# Where the symbols of an index come from

Throughout the life of an index its table lists identifiers only for tracked
files, and an identifier listed for a path without a colon names that path
(`Traced`). A pass keeps that up because it drops what is deleted and stores
what it parsed; a saved index because identifiers, files and paths are texts,
which are read back as they were even where a number is not.
-/

namespace SourceAtlas

open JsonValue

/-! ## The names in a saved index -/

/-- A list that is read as a whole is read item by item. -/
theorem forall₂_of_mapM {α β : Type} {read : α → Option β} {items : List α} {parts : List β}
    (whole : items.mapM read = some parts) :
    List.Forall₂ (fun item part => read item = some part) items parts := by
  induction items generalizing parts with
  | nil =>
    cases whole
    exact .nil
  | cons item rest inductionHypothesis =>
    rw [List.mapM_cons] at whole
    obtain ⟨part, here, whole⟩ := Option.bind_eq_some_iff.mp whole
    obtain ⟨others, there, whole⟩ := Option.bind_eq_some_iff.mp whole
    cases whole
    exact .cons here (inductionHypothesis there)

/-- In matched lists every second part belongs to a first one. -/
theorem exists_of_forall₂ {α β : Type} {related : α → β → Prop} {items : List α} {parts : List β}
    (pairs : List.Forall₂ related items parts) :
    ∀ part ∈ parts, ∃ item ∈ items, related item part := by
  induction pairs with
  | nil => simp
  | cons here _ inductionHypothesis =>
    intro part member
    rcases List.mem_cons.mp member with rfl | later
    · exact ⟨_, .head _, here⟩
    · obtain ⟨item, inside, pair⟩ := inductionHypothesis part later
      exact ⟨item, .tail _ inside, pair⟩

/-- A record is read back with its path. -/
theorem FileRecord.path_of_reread {record read : FileRecord}
    (decoded : ofJson? record.toJson.reread = some read) : read.path = record.path := by
  rw [ofJson?, toJson, fields?_reread] at decoded
  case named => rfl
  case distinct => decide
  simp only [List.map_cons, List.map_nil, Option.bind_eq_bind, Option.bind_some, requiredField,
    text?_reread, Option.bind_eq_some_iff] at decoded
  obtain ⟨size, -, modified, -, checksum, -, same⟩ := decoded
  cases same
  rfl

/-- A symbol is read back with its id and its file. -/
theorem Symbol.names_of_reread {symbol read : Symbol}
    (decoded : ofJson? symbol.toJson.reread = some read) :
    read.id = symbol.id ∧ read.file = symbol.file := by
  rw [ofJson?, toJson, fields?_reread] at decoded
  case named => rfl
  case distinct => decide
  simp only [List.map_cons, List.map_nil, Option.bind_eq_bind, Option.bind_some, requiredField,
    text?_reread, SymbolKind.ofJson?_reread, Option.bind_eq_some_iff] at decoded
  obtain ⟨startLine, -, endLine, -, signature, -, indexedAt, -, same⟩ := decoded
  cases same
  exact ⟨rfl, rfl⟩

namespace Snapshot

variable {snapshot read : Snapshot}

/-- The entries of a snapshot that is read back have the keys and the paths of those written. -/
theorem entries_of_reread (decoded : ofJson? snapshot.toJson.reread = some read) :
    ∃ entries : List (String × FileRecord), read.files = fileMapOf entries ∧
      entries.map Prod.fst = snapshot.files.keys ∧
      ∀ entry ∈ entries, ∃ record, snapshot.files[entry.1]? = some record ∧
        entry.2.path = record.path := by
  rw [ofJson?, toJson, fields?_reread] at decoded
  case named => rfl
  case distinct => decide
  simp only [List.map_cons, List.map_nil, Option.bind_eq_bind, Option.bind_some, requiredField,
    text?_reread, Option.bind_eq_some_iff] at decoded
  obtain ⟨capturedAt, -, entries, decoded, same⟩ := decoded
  cases same
  rw [reread, rereadMembers_eq, map?, List.map_map] at decoded
  have pairs : List.Forall₂ (fun written entry => entry.1 = written.1 ∧ entry.2.path = written.2.path)
      snapshot.files.toList entries := by
    refine (List.forall₂_map_left_iff.mp (forall₂_of_mapM decoded)).imp fun written entry pair => ?_
    obtain ⟨record, readBack, rfl⟩ := Option.map_eq_some_iff.mp pair
    exact ⟨rfl, FileRecord.path_of_reread readBack⟩
  refine ⟨entries, rfl, ?_, fun entry member => ?_⟩
  · rw [← Std.ExtTreeMap.map_fst_toList_eq_keys, eq_comm, ← List.forall₂_eq_eq_eq]
    refine List.forall₂_map_left_iff.mpr (List.forall₂_map_right_iff.mpr ?_)
    exact pairs.imp fun _ _ pair => pair.1.symm
  · obtain ⟨written, inside, key, path⟩ := exists_of_forall₂ pairs entry member
    rw [key]
    exact ⟨written.2, Std.ExtTreeMap.mem_toList_iff_getElem?_eq_some.mp inside, path⟩

/-- A snapshot is read back with its files. -/
theorem mem_files_of_reread (decoded : ofJson? snapshot.toJson.reread = some read) (path : String) :
    path ∈ read.files ↔ path ∈ snapshot.files := by
  obtain ⟨entries, files, keys, -⟩ := entries_of_reread decoded
  rw [← Std.ExtTreeMap.mem_keys (t := snapshot.files), ← keys, ← isSome_lastFor, files,
    Std.ExtTreeMap.mem_iff_isSome_getElem?, fileMapOf,
    FileMap.getElem?_foldl_insert Prod.fst Prod.snd]
  simp

/-- A keyed snapshot is read back keyed. -/
theorem keyed_of_reread (decoded : ofJson? snapshot.toJson.reread = some read)
    (keyed : Keyed snapshot.files) : Keyed read.files where
  path_eq {path record} found := by
    obtain ⟨entries, files, -, paths⟩ := entries_of_reread decoded
    rw [files, fileMapOf, FileMap.getElem?_foldl_insert Prod.fst Prod.snd,
      Std.ExtTreeMap.getElem?_empty, Option.or_none] at found
    obtain ⟨entry, last, rfl⟩ := Option.map_eq_some_iff.mp found
    have member := List.mem_reverse.mp (List.mem_of_find?_eq_some last)
    obtain rfl : entry.1 = path := by simpa using List.find?_some last
    obtain ⟨written, stored, path⟩ := paths entry member
    exact path.trans (keyed.path_eq stored)

end Snapshot

namespace SavedIndex

variable {saved read : SavedIndex}

/-- Whatever becomes of its numbers, a saved index that is read back has symbols and tracked files
of the names that were saved. -/
theorem names_of_parse? (parsed : parse? saved.render = some read) :
    (∀ symbol ∈ read.symbols, ∃ written ∈ saved.symbols,
        symbol.id = written.id ∧ symbol.file = written.file) ∧
      (∀ path, path ∈ Snapshot.filesOf read.snapshot ↔ path ∈ Snapshot.filesOf saved.snapshot) ∧
      (Keyed (Snapshot.filesOf saved.snapshot) → Keyed (Snapshot.filesOf read.snapshot)) := by
  rw [parse?_eq, ofJson?, toJson, fields?_reread] at parsed
  case named => rfl
  case distinct => decide
  simp only [List.map_cons, List.map_nil, Option.bind_eq_bind, Option.bind_some, requiredField,
    optionalField] at parsed
  obtain ⟨index, -, parsed⟩ := Option.bind_eq_some_iff.mp parsed
  split at parsed
  · simp only [Option.bind_eq_some_iff] at parsed
    obtain ⟨snapshot, taken, symbols, listed, updated, -, graph, -, embeddings, -, stats, -, same⟩ :=
      parsed
    cases same
    constructor
    · intro symbol member
      rw [reread, rereadItems_eq, list?, List.map_map] at listed
      obtain ⟨written, inside, decoded⟩ :=
        exists_of_forall₂ (List.forall₂_map_left_iff.mp (forall₂_of_mapM listed)) symbol member
      exact ⟨written, inside, Symbol.names_of_reread decoded⟩
    · cases written : saved.snapshot with
      | none =>
        rw [written] at taken
        cases taken
        exact ⟨fun _ => .rfl, id⟩
      | some before =>
        rw [written, ofOption, option?] at taken
        · obtain ⟨after, decoded, rfl⟩ := Option.map_eq_some_iff.mp taken
          exact ⟨Snapshot.mem_files_of_reread decoded, Snapshot.keyed_of_reread decoded⟩
        · simp [Snapshot.toJson, reread]
  · cases parsed

end SavedIndex

/-! ## What a pass lists for a file -/

namespace PassContext

variable {σ : Type} {context : PassContext σ} {base : IndexState} {snapshot : Snapshot}
  {changes : ChangeSet} {contents : SymbolTable × EmbeddingCache} {file id : String}

/-- What a file holds after others are stored comes from a stored file, or was held before. -/
theorem holds_of_foldl_replaceFile {files : List ParsedFile} {table : SymbolTable} {now : Int}
    (own : ∀ file ∈ files, ∀ symbol ∈ file.symbols, symbol.file = file.path)
    (held : (files.foldl (fun table file => table.replaceFile file.path file.symbols now)
      table).byFile.Holds file id) :
    (∃ parsed ∈ files, parsed.path = file ∧ ∃ symbol ∈ parsed.symbols, symbol.id = id) ∨
      (table.byFile.Holds file id ∧ ∀ parsed ∈ files, parsed.path ≠ file) := by
  induction files generalizing table with
  | nil => exact .inr ⟨held, by simp⟩
  | cons first rest inductionHypothesis =>
    obtain ⟨ownFirst, ownRest⟩ := List.forall_mem_cons.mp own
    rcases inductionHypothesis ownRest held with ⟨parsed, member, new⟩ | ⟨before, apart⟩
    · exact .inl ⟨parsed, .tail _ member, new⟩
    · rcases (SymbolTable.holds_replaceFile_iff ownFirst).mp before with new | ⟨before, other⟩
      · exact .inl ⟨first, .head _, new⟩
      · exact .inr ⟨before, List.forall_mem_cons.mpr ⟨other, apart⟩⟩

/-- What a pass lists for a file before it purges is what it parsed there, or was listed before for
a file that is neither dropped nor parsed. -/
theorem holds_of_unpurged {provider : σ}
    (held : (context.unpurged base changes provider).1.byFile.Holds file id) :
    (∃ parsed ∈ context.parsedFiles changes, parsed.path = file ∧
        ∃ symbol ∈ parsed.symbols, symbol.id = id) ∨
      (base.symbols.byFile.Holds file id ∧
        file ∉ dropped changes (context.parsedFiles changes) ∧
        ∀ parsed ∈ context.parsedFiles changes, parsed.path ≠ file) := by
  rw [symbols_unpurged] at held
  rcases holds_of_foldl_replaceFile (fun _ member => file_of_mem_parsedFiles member) held with
    new | ⟨before, apart⟩
  · exact .inl new
  · obtain ⟨before, undropped⟩ := SymbolTable.holds_foldl_removeFile_iff.mp before
    exact .inr ⟨before, undropped, apart⟩

/-- Before the purge every symbol is listed under its file. -/
theorem listed_unpurged (listed : base.symbols.Listed) (context : PassContext σ)
    (changes : ChangeSet) (provider : σ) : (context.unpurged base changes provider).1.Listed :=
  holds_unpurged listed (fun _ path listed => listed.removeFile path)
    (fun _ file _ listed => listed.replaceFile file.path file.symbols context.now) provider

/-- The identifiers that the eviction at the end of a pass takes out of its contents. -/
def evicted (context : PassContext σ) (contents : SymbolTable × EmbeddingCache) : List String :=
  ((MemoryBudget.ofMegabytes context.settings.embeddings.maxMemory).enforce contents.1
    (contents.2.purgeOrphans contents.1)).1.evicted

/-- Settling takes the entries without symbols and then what the budget takes. -/
theorem settle_eq (identified : contents.1.Identified) (context : PassContext σ) :
    context.settle contents =
      MemoryBudget.without (contents.1, contents.2.purgeOrphans contents.1)
        (context.evicted contents) := by
  obtain ⟨-, -, -, -, kept⟩ := MemoryBudget.enforce_evicts
    (.ofMegabytes context.settings.embeddings.maxMemory) identified
    (contents.2.purgeOrphans contents.1)
  exact kept

end PassContext

/-! ## Traced states -/

/-- The table lists identifiers for tracked files only, and an identifier that is listed for a path
without a colon names that path. -/
structure IndexState.Traced (state : IndexState) : Prop where
  keyed : Keyed (Snapshot.filesOf state.snapshot)
  listed : state.symbols.Listed
  labelled : state.symbols.Labelled
  tracked : ∀ {file id : String},
    state.symbols.byFile.Holds file id → file ∈ Snapshot.filesOf state.snapshot

/-- In a state without contents there is nothing to trace. -/
theorem IndexState.traced_empty : IndexState.empty.Traced where
  keyed := keyed_empty
  listed := SymbolTable.listed_empty
  labelled := SymbolTable.labelled_empty
  tracked := by simp [IndexState.empty]

/-- Traced symbols are under their own ids. -/
theorem IndexState.Traced.identified {state : IndexState} (traced : state.Traced) :
    state.symbols.Identified := traced.listed.identified

namespace PassContext

variable {σ : Type} {context : PassContext σ} {base : IndexState} {snapshot : Snapshot}
  {file id : String}

/-- The symbols of a parsed file belong to it. -/
theorem belongTo_of_mem_parsedFiles {changes : ChangeSet} {parsed : ParsedFile}
    (member : parsed ∈ context.parsedFiles changes) (colonFree : ColonFree parsed.path) :
    SymbolTable.BelongTo parsed.symbols parsed.path := by
  obtain ⟨record, -, outcome⟩ := mem_splitOutcomes.mp member
  rw [(path_of_parseFile outcome).1] at colonFree
  exact belongTo_of_parseFile outcome colonFree

/-- Before the purge every id says whose symbol it is. -/
theorem labelled_unpurged {changes : ChangeSet} (labelled : base.symbols.Labelled) (provider : σ) :
    (context.unpurged base changes provider).1.Labelled :=
  holds_unpurged labelled (fun _ path labelled => labelled.removeFile path)
    (fun _ _ member labelled => labelled.replaceFile (file_of_mem_parsedFiles member)
      (belongTo_of_mem_parsedFiles member) context.now) provider

/-- Before the purge only tracked files hold symbols. -/
theorem tracked_of_unpurged {provider : σ} (traced : base.Traced) (keyed : Keyed snapshot.files)
    (held : (context.unpurged base (Snapshot.diff base.snapshot snapshot) provider).1.byFile.Holds
      file id) : file ∈ snapshot.files := by
  rcases holds_of_unpurged held with ⟨parsed, member, rfl, -⟩ | ⟨before, undropped, -⟩
  · obtain ⟨record, found, -⟩ := (mem_parsedFiles keyed).mp member
    exact Std.ExtTreeMap.mem_iff_isSome_getElem?.mpr (found ▸ rfl)
  · by_contra gone
    exact undropped ((mem_dropped keyed).mpr (.inl ⟨traced.tracked before, gone⟩))

/-- A pass leaves every symbol traced to a tracked file. -/
theorem traced_apply (traced : base.Traced) (keyed : Keyed snapshot.files)
    (context : PassContext σ) (provider : σ) :
    (context.apply base snapshot (Snapshot.diff base.snapshot snapshot) provider).state.Traced := by
  rw [apply]
  split
  next idle =>
    obtain ⟨-, unchanged⟩ := Bool.and_eq_true_iff.mp idle
    simp only [ChangeSet.isEmpty, Bool.and_eq_true, List.isEmpty_iff] at unchanged
    refine ⟨keyed, traced.listed, traced.labelled, fun {file id} held => ?_⟩
    by_contra gone
    have deleted := Snapshot.mem_deleted_diff.mpr ⟨traced.tracked held, gone⟩
    rw [unchanged.2] at deleted
    cases deleted
  next =>
    have listed := listed_unpurged traced.listed context
      (Snapshot.diff base.snapshot snapshot) provider
    have settled := congrArg Prod.fst (settle_eq listed.identified context)
    have kept : (context.rework base snapshot (Snapshot.diff base.snapshot snapshot)
        provider).state.symbols = _ := settled
    have held {file id : String} (after : (context.rework base snapshot
        (Snapshot.diff base.snapshot snapshot) provider).state.symbols.byFile.Holds file id) :
        (context.unpurged base (Snapshot.diff base.snapshot snapshot) provider).1.byFile.Holds
          file id := by
      rw [kept] at after
      exact SymbolTable.holds_of_foldl_removeSymbol after
    refine ⟨keyed, ?_, fun _ _ after => labelled_unpurged traced.labelled provider _ _ (held after),
      fun after => tracked_of_unpurged traced keyed (held after)⟩
    rw [kept]
    exact List.foldlRecOn _ _ listed fun _ listed id _ => listed.removeSymbol id

end PassContext

namespace Index

variable {σ : Type} {index : Index σ}

/-- A visit starts from traced contents. -/
theorem traced_base (traced : index.published.Traced) (visit : Visit σ) :
    (visit.base index).Traced :=
  Visit.holds_base (motive := IndexState.Traced) traced IndexState.traced_empty visit

/-- A visit leaves traced contents. -/
theorem traced_outcome (traced : index.published.Traced) (visit : Visit σ) :
    (visit.outcome index).index.published.Traced := by
  cases answered : (visit.outcome index).result with
  | error error =>
    obtain ⟨-, -, same⟩ | ⟨snapshot, succeeded, -⟩ := visit.outcome_made index
    · rwa [same]
    · rw [answered] at succeeded
      cases succeeded
  | ok stats =>
    obtain ⟨snapshot, takes⟩ := Visit.takes_of_ok answered
    rw [takes.published.1]
    exact PassContext.traced_apply (traced_base traced visit) (takes.keyed traced.keyed) _ _

/-- What is loaded from a file that an index saved is traced like the index. -/
theorem traced_of_written {files : FileSystem} {path : String} {state loaded : IndexState}
    (traced : state.Traced) (written : files.readText path = .ok (SavedIndex.ofState state).render)
    (found : savedState? files path = some loaded) : loaded.Traced := by
  rw [savedState?, written] at found
  obtain ⟨saved, parsed, rfl⟩ := Option.map_eq_some_iff.mp found
  obtain ⟨symbols, paths, keyed⟩ := SavedIndex.names_of_parse? parsed
  have files : Snapshot.filesOf (SavedIndex.ofState state).snapshot =
      Snapshot.filesOf state.snapshot := by
    cases taken : state.snapshot <;> simp [SavedIndex.ofState, taken, Snapshot.filesOf]
  rw [files] at keyed
  have listed := SymbolTable.listed_empty.foldl_insert saved.symbols
  -- What the loaded table lists was stored, and so was listed, when the index was saved.
  have held {file id : String} (after : (SymbolTable.ofSymbols saved.symbols
      saved.symbolsUpdated).byFile.Holds file id) : state.symbols.byFile.Holds file id := by
    rcases SymbolTable.holds_foldl_insert_iff.mp after with none | ⟨symbol, member, rfl, rfl⟩
    · simp [SymbolTable.empty] at none
    · obtain ⟨original, inside, sameId, sameFile⟩ := symbols symbol member
      obtain ⟨key, stored⟩ := FileMap.mem_values_iff.mp inside
      rw [sameId, sameFile, traced.listed.keyed stored]
      exact traced.listed.listed stored
  exact ⟨keyed traced.keyed, ⟨listed.keyed, listed.listed⟩,
    fun _ _ after => traced.labelled _ _ (held after),
    fun after => (paths _).mpr (files ▸ traced.tracked (held after))⟩

/-- The published state of a live index is traced. -/
theorem Lived.traced (lived : index.Lived) : index.published.Traced := by
  induction lived with
  | created created =>
    rw [(blank_of_create created).2]
    exact IndexState.traced_empty
  | opened opened unreadable =>
    obtain ⟨-, found⟩ | ⟨-, published, -⟩ := openSaved_cases opened
    · rw [unreadable] at found
      cases found
    · rw [published]
      exact IndexState.traced_empty
  | reopened _ _ opened written inductionHypothesis =>
    obtain ⟨-, found⟩ | ⟨-, published, -⟩ := openSaved_cases opened
    · exact traced_of_written inductionHypothesis written found
    · rw [published]
      exact IndexState.traced_empty
  | @after _ index _ operation inductionHypothesis =>
    cases operation with
    | pass visit => exact traced_outcome inductionHypothesis visit
    | save files now => exact inductionHypothesis
    | clear workspace =>
      rw [Operation.after, published_clear]
      exact IndexState.traced_empty
    | ask query workspace now =>
      obtain ⟨embeddings, after⟩ := query.after_eq index workspace now
      rw [Operation.after, after]
      exact ⟨inductionHypothesis.keyed, inductionHypothesis.listed, inductionHypothesis.labelled,
        inductionHypothesis.tracked⟩

/-- The vectors of a live index are paired with its symbols. -/
theorem Lived.paired (lived : index.Lived) : index.published.Paired := by
  induction lived with
  | created created => exact paired_published_create created
  | opened opened _ => exact paired_published_openSaved opened
  | reopened _ _ opened _ _ => exact paired_published_openSaved opened
  | @after _ index _ operation inductionHypothesis =>
    cases operation with
    | pass visit => exact paired_published_outcome inductionHypothesis visit
    | save files now => exact inductionHypothesis
    | clear workspace =>
      rw [Operation.after, published_clear]
      exact IndexState.paired_empty
    | ask query workspace now =>
      cases query with
      | search text limit =>
        exact paired_published_search inductionHypothesis workspace text limit now
      | _ => exact inductionHypothesis

end Index

end SourceAtlas
