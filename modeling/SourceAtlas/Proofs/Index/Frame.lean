import SourceAtlas.Proofs.Index.Recording

/-!
# What a pass leaves alone

A pass from published contents drops and stores the files of its change set. It
keeps every symbol of another file, with its vector as it was, unless the budget
takes the symbol away; then its vector goes as well. For that no path may have a
colon, so that every identifier names the file of its symbol.
-/

namespace SourceAtlas

/-- The same symbol and the same vector under an identifier. -/
structure SameUnder (id : String) (before after : SymbolTable × EmbeddingCache) : Prop where
  symbol : after.1.get? id = before.1.get? id
  vector : after.2.get? id = before.2.get? id

namespace SameUnder

variable {id : String} {first second third : SymbolTable × EmbeddingCache}

/-- Contents are the same as themselves under every id. -/
theorem refl (contents : SymbolTable × EmbeddingCache) : SameUnder id contents contents :=
  ⟨rfl, rfl⟩

/-- What stays the same in two steps stays the same in both. -/
theorem trans (one : SameUnder id first second) (two : SameUnder id second third) :
    SameUnder id first third :=
  ⟨two.symbol.trans one.symbol, two.vector.trans one.vector⟩

end SameUnder

/-- Where every entry has its symbol, a purge takes nothing. -/
theorem EmbeddingCache.Paired.get?_purgeOrphans {cache : EmbeddingCache} {symbols : SymbolTable}
    (paired : cache.Paired symbols) (id : String) :
    (cache.purgeOrphans symbols).get? id = cache.get? id := by
  rw [EmbeddingCache.purgeOrphans, paired.orphans_eq_nil, List.foldl_nil]
  split
  · next vacant =>
    have none : cache.entries = ∅ := Std.ExtTreeMap.isEmpty_iff.mp vacant
    rw [get?, get?, none]
    rfl
  · rfl

namespace PassContext

variable {σ : Type} {context : PassContext σ} {contents : SymbolTable × EmbeddingCache}
  {base : IndexState} {previous : Option Snapshot} {snapshot : Snapshot} {changes : ChangeSet}
  {files : List ParsedFile} {paths : List String} {path id : String}

/-- Dropping a file leaves the identifiers of other owners alone. -/
theorem sameUnder_dropFile (labelled : contents.1.Labelled) (colonFree : ColonFree path)
    (foreign : Symbol.ownerOf id ≠ path) : SameUnder id contents (dropFile contents path) where
  symbol := labelled.symbols_removeFile colonFree foreign
  vector := (EmbeddingCache.entries_foldl_remove _ _ id).trans
    (if_neg (labelled.not_mem_idsOfFile colonFree foreign))

/-- Dropping files leaves everything under the ids of other files. -/
theorem sameUnder_foldl_dropFile (labelled : contents.1.Labelled)
    (colonFree : ∀ path ∈ paths, ColonFree path)
    (foreign : ∀ path ∈ paths, Symbol.ownerOf id ≠ path) :
    SameUnder id contents (paths.foldl dropFile contents) ∧
      (paths.foldl dropFile contents).1.Labelled := by
  induction paths generalizing contents with
  | nil => exact ⟨.refl contents, labelled⟩
  | cons first rest inductionHypothesis =>
    obtain ⟨colonFreeFirst, colonFreeRest⟩ := List.forall_mem_cons.mp colonFree
    obtain ⟨foreignFirst, foreignRest⟩ := List.forall_mem_cons.mp foreign
    have here := sameUnder_dropFile labelled colonFreeFirst foreignFirst
    have labelledLater : (dropFile contents first).1.Labelled := labelled.removeFile first
    obtain ⟨later, kept⟩ := inductionHypothesis labelledLater colonFreeRest foreignRest
    exact ⟨here.trans later, kept⟩

/-- Storing a file leaves the identifiers of other owners alone. -/
theorem sameUnder_storeFile {file : ParsedFile} (labelled : contents.1.Labelled)
    (belong : SymbolTable.BelongTo file.symbols file.path) (colonFree : ColonFree file.path)
    (foreign : Symbol.ownerOf id ≠ file.path) (now : Int) :
    SameUnder id contents (storeFile now contents file) where
  symbol := labelled.symbols_replaceFile belong colonFree foreign now
  vector := (EmbeddingCache.entries_foldl_remove _ _ id).trans
    (if_neg (labelled.not_mem_idsOfFile colonFree foreign))

/-- Storing files leaves everything under the ids of other files. -/
theorem sameUnder_storeFiles (labelled : contents.1.Labelled)
    (belong : ∀ file ∈ files, SymbolTable.BelongTo file.symbols file.path)
    (colonFree : ∀ file ∈ files, ColonFree file.path)
    (foreign : ∀ file ∈ files, Symbol.ownerOf id ≠ file.path) (now : Int) :
    SameUnder id contents (storeFiles now contents files).2 := by
  induction files generalizing contents with
  | nil => exact .refl contents
  | cons first rest inductionHypothesis =>
    obtain ⟨belongFirst, belongRest⟩ := List.forall_mem_cons.mp belong
    obtain ⟨colonFreeFirst, colonFreeRest⟩ := List.forall_mem_cons.mp colonFree
    obtain ⟨foreignFirst, foreignRest⟩ := List.forall_mem_cons.mp foreign
    have own : ∀ symbol ∈ first.symbols, symbol.file = first.path :=
      fun symbol member => (belongFirst symbol member).1
    have here := sameUnder_storeFile labelled belongFirst colonFreeFirst foreignFirst now
    have labelledLater : (storeFile now contents first).1.Labelled :=
      labelled.replaceFile own (fun _ => belongFirst) now
    exact here.trans (inductionHypothesis labelledLater belongRest colonFreeRest foreignRest)

/-- The paths that a pass drops or stores are those of its change set. -/
theorem mem_changedPaths_of_mem_dropped {parsed : List ParsedFile}
    (member : path ∈ dropped changes parsed) : path ∈ Snapshot.changedPaths changes := by
  rw [dropped, List.mem_append, List.mem_filter, ChangeSet.upserted, List.map_append] at member
  rw [Snapshot.changedPaths, List.mem_append]
  tauto

/-- Only changed files are parsed. -/
theorem mem_changedPaths_of_mem_parsedFiles {file : ParsedFile}
    (member : file ∈ context.parsedFiles changes) : file.path ∈ Snapshot.changedPaths changes := by
  obtain ⟨record, asked, parsed⟩ := mem_splitOutcomes.mp member
  rw [(path_of_parseFile parsed).1, Snapshot.changedPaths, ← List.map_append]
  exact List.mem_append_left _ (List.mem_map_of_mem (List.mem_filter.mp asked).1)

/-- Up to its purge a pass leaves the identifiers of files alone that are not in its change set. -/
theorem sameUnder_unpurged (labelled : base.symbols.Labelled)
    (distinct : ((context.parsedFiles changes).map ParsedFile.path).Nodup)
    (colonFree : ∀ path ∈ Snapshot.changedPaths changes, ColonFree path)
    (foreign : Symbol.ownerOf id ∉ Snapshot.changedPaths changes) (provider : σ) :
    SameUnder id base.contents (context.unpurged base changes provider) := by
  have apart : ∀ path ∈ Snapshot.changedPaths changes, Symbol.ownerOf id ≠ path :=
    fun path member same => foreign (same ▸ member)
  have belong : ∀ file ∈ context.parsedFiles changes,
      SymbolTable.BelongTo file.symbols file.path := fun file member =>
    belongTo_of_mem_parsedFiles member (colonFree _ (mem_changedPaths_of_mem_parsedFiles member))
  have start : base.contents.1.Labelled := labelled
  have freeOfColons : ∀ path ∈ dropped changes (context.parsedFiles changes), ColonFree path :=
    fun path member => colonFree path (mem_changedPaths_of_mem_dropped member)
  obtain ⟨dropping, left⟩ := sameUnder_foldl_dropFile start freeOfColons
    fun path member => apart path (mem_changedPaths_of_mem_dropped member)
  have storing : SameUnder id _ (context.stored base changes).2 := sameUnder_storeFiles left belong
    (fun file member => colonFree _ (mem_changedPaths_of_mem_parsedFiles member))
    (fun file member => apart _ (mem_changedPaths_of_mem_parsedFiles member)) context.now
  refine (dropping.trans storing).trans ⟨rfl, ?_⟩
  -- What is embedded was listed for a parsed file, which owns it.
  refine entries_embedSymbols (fun handed => ?_) context _ _ provider
  have own : ∀ file ∈ context.parsedFiles changes, ∀ symbol ∈ file.symbols,
      symbol.file = file.path := fun _ member => file_of_mem_parsedFiles member
  obtain ⟨file, member, listed⟩ :=
    List.mem_flatMap.mp ((handed_perm _ context.now distinct own).mem_iff.mp handed)
  obtain ⟨symbol, inside, rfl⟩ := (SymbolTable.mem_idsOfFile_withFiles distinct own member).mp listed
  exact apart _ (mem_changedPaths_of_mem_parsedFiles member) (belong file member symbol inside).2

/-- What the budget does not take is left by the purge and the eviction. -/
theorem sameUnder_settle (paired : contents.2.Paired contents.1) (identified : contents.1.Identified)
    (kept : id ∉ context.evicted contents) : SameUnder id contents (context.settle contents) := by
  rw [settle_eq identified]
  constructor
  · rw [MemoryBudget.symbol_without, if_neg kept]
  · rw [MemoryBudget.entry_without, if_neg kept, paired.get?_purgeOrphans]

end PassContext

/-! ## Other files -/

namespace IndexState.Traced

variable {state : IndexState} {symbol : Symbol} {file id : String}

/-- Without colons, a symbol is stored under an identifier that names its file, which is tracked. -/
theorem owner_of_stored (traced : state.Traced)
    (colonFree : ∀ path ∈ Snapshot.filesOf state.snapshot, ColonFree path)
    (stored : state.symbols.get? id = some symbol) :
    symbol.id = id ∧ Symbol.ownerOf id = symbol.file := by
  have listed := traced.listed.listed stored
  exact ⟨traced.listed.keyed stored,
    traced.labelled _ _ listed (colonFree _ (traced.tracked listed))⟩

/-- The symbols of a file are those stored under their ids with this file. -/
theorem mem_inFile_iff (traced : state.Traced)
    (colonFree : ∀ path ∈ Snapshot.filesOf state.snapshot, ColonFree path) :
    symbol ∈ state.symbols.inFile file ↔
      state.symbols.get? symbol.id = some symbol ∧ symbol.file = file := by
  rw [traced.listed.mem_inFile_iff]
  constructor
  · rintro ⟨member, stored⟩
    have held := Buckets.mem_ids_iff.mp member
    have owner := traced.labelled _ _ held (colonFree _ (traced.tracked held))
    exact ⟨stored, (traced.owner_of_stored colonFree stored).2.symm.trans owner⟩
  · rintro ⟨stored, rfl⟩
    exact ⟨Buckets.mem_ids_iff.mpr (traced.listed.listed stored), stored⟩

end IndexState.Traced

/-- A pass keeps every symbol of a file that is not in its change set, with its vector as it was,
save what it evicts; there both are gone. -/
structure KeepsOthers (before after : IndexState) (changes : ChangeSet) (evicted : List String) :
    Prop where
  kept : ∀ (id : String) (symbol : Symbol), before.symbols.get? id = some symbol →
    symbol.file ∉ Snapshot.changedPaths changes → id ∉ evicted →
      after.symbols.get? id = some symbol ∧ after.embeddings.get? id = before.embeddings.get? id
  gone : ∀ id ∈ evicted, after.symbols.get? id = none ∧ after.embeddings.get? id = none
  noneNew : ∀ (id : String) (symbol : Symbol), after.symbols.get? id = some symbol →
    symbol.file ∉ Snapshot.changedPaths changes → before.symbols.get? id = some symbol
  listed : ∀ file ∉ Snapshot.changedPaths changes, ∀ symbol,
    symbol ∈ after.symbols.inFile file ↔ symbol ∈ before.symbols.inFile file ∧ symbol.id ∉ evicted

/-- What is listed for other files follows from what is stored. -/
theorem KeepsOthers.of_stored {before after : IndexState} {changes : ChangeSet}
    {evicted : List String} (traced : before.Traced) (tracedAfter : after.Traced)
    (colonFree : ∀ path ∈ Snapshot.filesOf before.snapshot, ColonFree path)
    (colonFreeAfter : ∀ path ∈ Snapshot.filesOf after.snapshot, ColonFree path)
    (kept : ∀ (id : String) (symbol : Symbol), before.symbols.get? id = some symbol →
      symbol.file ∉ Snapshot.changedPaths changes → id ∉ evicted →
        after.symbols.get? id = some symbol ∧ after.embeddings.get? id = before.embeddings.get? id)
    (gone : ∀ id ∈ evicted, after.symbols.get? id = none ∧ after.embeddings.get? id = none)
    (noneNew : ∀ (id : String) (symbol : Symbol), after.symbols.get? id = some symbol →
      symbol.file ∉ Snapshot.changedPaths changes → before.symbols.get? id = some symbol) :
    KeepsOthers before after changes evicted where
  kept := kept
  gone := gone
  noneNew := noneNew
  listed file outside symbol := by
    rw [traced.mem_inFile_iff colonFree, tracedAfter.mem_inFile_iff colonFreeAfter]
    constructor
    · rintro ⟨stored, rfl⟩
      refine ⟨⟨noneNew _ symbol stored outside, rfl⟩, fun member => ?_⟩
      rw [(gone _ member).1] at stored
      cases stored
    · rintro ⟨⟨stored, rfl⟩, stays⟩
      exact ⟨(kept _ symbol stored outside stays).1, rfl⟩

namespace PassContext

variable {σ : Type} {context : PassContext σ} {base : IndexState} {snapshot : Snapshot}

/-- The identifiers that a pass evicts. An idle pass evicts nothing. -/
def evictedFrom (context : PassContext σ) (base : IndexState) (changes : ChangeSet) (provider : σ) :
    List String :=
  if context.incremental && changes.isEmpty then []
  else context.evicted (context.unpurged base changes provider)

/-- A changed path was tracked before or is now. -/
theorem mem_tracked_of_mem_changedPaths {path : String} (keyed : Keyed snapshot.files)
    (member : path ∈ Snapshot.changedPaths (Snapshot.diff base.snapshot snapshot)) :
    path ∈ Snapshot.filesOf base.snapshot ∨ path ∈ snapshot.files := by
  have tracked : path ∈ Snapshot.trackedPaths base.snapshot snapshot := by
    rw [← (Snapshot.covers_diff base.snapshot keyed).2]
    exact List.mem_toFinset.mpr (List.mem_append_left _ member)
  simpa [Snapshot.trackedPaths] using tracked

/-- A pass leaves the identifiers of other files alone, save those that it evicts. -/
theorem sameUnder_apply (traced : base.Traced) (paired : base.Paired) (keyed : Keyed snapshot.files)
    (colonFree : ∀ path ∈ Snapshot.changedPaths (Snapshot.diff base.snapshot snapshot),
      ColonFree path) {provider : σ} {id : String}
    (foreign : Symbol.ownerOf id ∉ Snapshot.changedPaths (Snapshot.diff base.snapshot snapshot))
    (kept : id ∉ context.evictedFrom base (Snapshot.diff base.snapshot snapshot) provider) :
    SameUnder id base.contents (context.apply base snapshot (Snapshot.diff base.snapshot snapshot)
      provider).state.contents := by
  rw [contents_apply]
  rw [evictedFrom] at kept
  split
  · exact .refl base.contents
  · next busy =>
    rw [if_neg busy] at kept
    have distinct := context.nodup_paths_parsedFiles
      (Snapshot.fresh_of_keyed keyed base.snapshot)
    have listed := listed_unpurged traced.listed context
      (Snapshot.diff base.snapshot snapshot) provider
    exact (sameUnder_unpurged traced.labelled distinct colonFree foreign provider).trans
      (sameUnder_settle (paired_unpurged paired context _ provider) listed.identified kept)

/-- Of what a pass evicts it leaves neither the symbol nor its vector. -/
theorem gone_apply (traced : base.Traced) (context : PassContext σ) (snapshot : Snapshot)
    (changes : ChangeSet) (provider : σ) :
    ∀ id ∈ context.evictedFrom base changes provider,
      (context.apply base snapshot changes provider).state.symbols.get? id = none ∧
        (context.apply base snapshot changes provider).state.embeddings.get? id = none := by
  intro id member
  have contents := context.contents_apply base snapshot changes provider
  rw [evictedFrom] at member
  split at member
  · cases member
  · next busy =>
    have listed := listed_unpurged traced.listed context changes provider
    rw [if_neg busy, settle_eq listed.identified] at contents
    have symbols := congrArg (fun contents => contents.1.get? id) contents
    have entries := congrArg (fun contents => contents.2.get? id) contents
    rw [MemoryBudget.symbol_without, if_pos member] at symbols
    rw [MemoryBudget.entry_without, if_pos member] at entries
    exact ⟨symbols, entries⟩

/-- A pass keeps what it does not touch. -/
theorem keepsOthers_apply (traced : base.Traced) (paired : base.Paired)
    (keyed : Keyed snapshot.files)
    (colonFree : ∀ path ∈ Snapshot.filesOf base.snapshot, ColonFree path)
    (colonFreeAfter : ∀ path ∈ snapshot.files, ColonFree path) (context : PassContext σ)
    (provider : σ) :
    KeepsOthers base
      (context.apply base snapshot (Snapshot.diff base.snapshot snapshot) provider).state
      (Snapshot.diff base.snapshot snapshot)
      (context.evictedFrom base (Snapshot.diff base.snapshot snapshot) provider) := by
  have colonFreeChanged : ∀ path ∈ Snapshot.changedPaths (Snapshot.diff base.snapshot snapshot),
      ColonFree path := fun path member =>
    (mem_tracked_of_mem_changedPaths keyed member).elim (colonFree path) (colonFreeAfter path)
  have tracedAfter := traced_apply traced keyed context provider
  have trackedAfter : Snapshot.filesOf (context.apply base snapshot
      (Snapshot.diff base.snapshot snapshot) provider).state.snapshot = snapshot.files := by
    rw [snapshot_apply]
    rfl
  rw [← trackedAfter] at colonFreeAfter
  have gone := gone_apply traced context snapshot (Snapshot.diff base.snapshot snapshot) provider
  refine KeepsOthers.of_stored traced tracedAfter colonFree colonFreeAfter ?_ gone ?_
  · intro id symbol stored outside kept
    rw [← (traced.owner_of_stored colonFree stored).2] at outside
    have same := sameUnder_apply traced paired keyed colonFreeChanged outside kept
    exact ⟨same.symbol.trans stored, same.vector⟩
  · intro id symbol stored outside
    rw [← (tracedAfter.owner_of_stored colonFreeAfter stored).2] at outside
    have kept : id ∉ context.evictedFrom base (Snapshot.diff base.snapshot snapshot) provider := by
      intro member
      rw [(gone id member).1] at stored
      cases stored
    have same := sameUnder_apply traced paired keyed colonFreeChanged outside kept
    exact same.symbol.symm.trans stored

end PassContext

/-! ## The records of a pass -/

namespace Snapshot

variable {previous : Option Snapshot} {current : Snapshot} {path : String}

/-- A change set has the paths whose record is new or changed, and those that are gone. -/
theorem mem_changedPaths_diff_iff (keyed : Keyed current.files) :
    path ∈ changedPaths (diff previous current) ↔
      (∃ record, current.files[path]? = some record ∧
        classify (filesOf previous) path record ≠ .unchanged) ∨
      (path ∈ filesOf previous ∧ path ∉ current.files) := by
  rw [changedPaths_diff keyed, List.mem_append, List.mem_append, mem_paths_classed,
    mem_paths_classed, mem_deleted_diff, ← exists_or]
  refine or_congr_left (exists_congr fun record => ?_)
  rw [← and_or_left]
  refine and_congr_right fun _ => ?_
  cases classify (filesOf previous) path record <;> simp

/-- A path with the record that it had is in no change set. -/
theorem not_mem_changedPaths_of_same (keyed : Keyed current.files)
    (same : current.files[path]? = (filesOf previous)[path]?) :
    path ∉ changedPaths (diff previous current) := by
  rw [mem_changedPaths_diff_iff keyed]
  rintro (⟨record, found, changed⟩ | ⟨before, gone⟩)
  · exact changed (classify_of_same (same.symm.trans found))
  · rw [Std.ExtTreeMap.mem_iff_isSome_getElem?, same] at gone
    exact gone (Std.ExtTreeMap.mem_iff_isSome_getElem?.mp before)

/-- A path outside a change set is tracked before and after, or neither, and its two records tell
the same contents. -/
theorem unchanged_of_not_mem_changedPaths (keyed : Keyed current.files)
    (outside : path ∉ changedPaths (diff previous current)) :
    (path ∈ current.files ↔ path ∈ filesOf previous) ∧
      ∀ old new, (filesOf previous)[path]? = some old → current.files[path]? = some new →
        new.changedFrom old = false := by
  rw [mem_changedPaths_diff_iff keyed, not_or] at outside
  obtain ⟨unchanged, kept⟩ := outside
  push Not at unchanged kept
  refine ⟨⟨fun tracked => ?_, kept⟩, fun old new before found => ?_⟩
  · obtain ⟨record, found⟩ := (mem_keys_iff _).mp tracked
    by_contra absent
    have sort := unchanged record found
    rw [classify_eq_added_iff.mpr absent] at sort
    cases sort
  · have sort := unchanged new found
    rw [classify, before] at sort
    simpa using sort

end Snapshot

/-! ## A request -/

/-- A pass counts the symbols that it evicts. -/
theorem PassContext.evicted_apply {σ : Type} (context : PassContext σ) (base : IndexState)
    (snapshot : Snapshot) (changes : ChangeSet) (provider : σ) :
    (context.apply base snapshot changes provider).evicted =
      (context.evictedFrom base changes provider).length := by
  rw [PassContext.apply, PassContext.evictedFrom]
  split <;> rfl

namespace Visit

variable {σ : Type} {visit : Visit σ} {index : Index σ} {snapshot : Snapshot} {stats : PassStats}

/-- The identifiers that the pass over a snapshot evicts. -/
def evicted (visit : Visit σ) (index : Index σ) (snapshot : Snapshot) : List String :=
  (visit.context index).evictedFrom (visit.base index) (visit.changes index snapshot)
    visit.workspace.provider

/-- What a request over published contents touches. Its provider is sent the texts of what the pass
stored for the files that it parsed. The symbols of other files stay with their vectors, save those
that are evicted and counted. The change set of an update has only keys that were asked for, and
every other key has the record that it had. -/
structure Frames (visit : Visit σ) (index : Index σ) (snapshot : Snapshot) : Prop where
  base : visit.base index = index.published
  sends : ∃ sent, visit.recording.outcome index.recording = (visit.outcome index).noting sent ∧
    (index.provider.isSome →
      ∀ text, text ∈ sent ↔ text ∈ (visit.handed index snapshot).map Symbol.embeddingText)
  others : KeepsOthers index.published (visit.outcome index).index.published
    (visit.changes index snapshot) (visit.evicted index snapshot)
  evicts : (visit.outcome index).workspace.metrics.evictedSymbols =
    visit.workspace.metrics.evictedSymbols + (visit.evicted index snapshot).length
  asked : ∀ paths, visit.request = .update paths →
    ∀ path ∈ Snapshot.changedPaths (visit.changes index snapshot),
      ∃ given ∈ paths, index.keyOf? visit.workspace.files given = some path
  records : ∀ paths, visit.request = .update paths →
    ∀ path, (∀ given ∈ paths, index.keyOf? visit.workspace.files given ≠ some path) →
      snapshot.files[path]? = (Snapshot.filesOf index.published.snapshot)[path]?
  unchanged : ∀ path ∉ Snapshot.changedPaths (visit.changes index snapshot),
    (path ∈ snapshot.files ↔ path ∈ Snapshot.filesOf index.published.snapshot) ∧
      ∀ old new, (Snapshot.filesOf index.published.snapshot)[path]? = some old →
        snapshot.files[path]? = some new → new.changedFrom old = false

/-- An update takes over the records of the files it was not asked about. -/
theorem Takes.records_of_update {paths : List String} {path : String}
    (takes : visit.Takes index snapshot) (request : visit.request = .update paths)
    (unasked : ∀ given ∈ paths, index.keyOf? visit.workspace.files given ≠ some path) :
    snapshot.files[path]? = (Snapshot.filesOf index.published.snapshot)[path]? := by
  cases takes with
  | capture captures => cases captures.symm.trans request
  | @records asked previous records updates ready taken recorded same =>
    obtain rfl := PassRequest.update.inj (updates.symm.trans request)
    have absent : path ∉ index.keysOf visit.workspace.files asked := by
      rw [Index.mem_keysOf]
      rintro ⟨given, member, key⟩
      exact unasked given member key
    rw [same, taken]
    exact (Index.getElem?_recordKeys recorded path).1 absent

/-- A request to a ready index that does not start over starts from what is published. -/
theorem base_of_unforced (ready : index.phase = .ready) (taken : index.published.snapshot.isSome)
    (unforced : ∀ options, visit.request = .build options → options.force = false) :
    visit.base index = index.published := by
  have incremental : visit.isIncremental index = true := by
    rw [isIncremental]
    split
    · next options request => simp [unforced options request, ready, taken]
    · rfl
  rw [base, if_pos incremental]

/-- A request to a ready index touches what its change set says, when no path has a colon. -/
theorem frames_of_ok (lived : index.Lived) (ready : index.phase = .ready)
    (unforced : ∀ options, visit.request = .build options → options.force = false)
    (succeeds : (visit.outcome index).result = .ok stats)
    (colonFree : ∀ path ∈ Snapshot.filesOf index.published.snapshot, ColonFree path)
    (colonFreeAfter : ∀ path ∈ Snapshot.filesOf (visit.outcome index).index.published.snapshot,
      ColonFree path) :
    ∃ snapshot, (visit.outcome index).index.published.snapshot = some snapshot ∧
      visit.Frames index snapshot := by
  obtain ⟨snapshot, takes⟩ := takes_of_ok succeeds
  have base := base_of_unforced ready (lived.wellPhased.ready ready) unforced
  have keyed := takes.keyed lived.traced.keyed
  have published := takes.published.1
  have taken : (visit.outcome index).index.published.snapshot = some snapshot := by
    rw [published]
    exact PassContext.snapshot_apply
  rw [taken] at colonFreeAfter
  have others := PassContext.keepsOthers_apply lived.traced lived.paired keyed colonFree
    colonFreeAfter (visit.context index) visit.workspace.provider
  have changes : visit.changes index snapshot =
      Snapshot.diff index.published.snapshot snapshot := by
    rw [Visit.changes, base]
  refine ⟨snapshot, taken, ?_⟩
  constructor
  case base => exact base
  case sends => exact takes.outcome_recording
  case others =>
    rw [published, made, evicted, changes, base]
    exact others
  case evicts =>
    rw [takes.outcome_eq]
    exact congrArg _ (PassContext.evicted_apply _ _ _ _ _)
  case asked =>
    intro paths request path member
    by_contra! unasked
    rw [changes] at member
    exact Snapshot.not_mem_changedPaths_of_same keyed (takes.records_of_update request unasked)
      member
  case records => exact fun paths request path unasked => takes.records_of_update request unasked
  case unchanged =>
    rw [changes]
    exact fun path outside => Snapshot.unchanged_of_not_mem_changedPaths keyed outside

end Visit

namespace Index

/-- The update of one file leaves the symbol of the other one alone, with the vector and the time of
the search that found it. -/
theorem moodyUpdate_frames :
    ∃ snapshot, (moodyUpdate.outcome moodySearched).index.published.snapshot = some snapshot ∧
      moodyUpdate.Frames moodySearched snapshot ∧
      Snapshot.changedPaths (moodyUpdate.changes moodySearched snapshot) = ["a.ts"] ∧
      (moodyUpdate.handed moodySearched snapshot).map Symbol.name = ["h2"] ∧
      ((moodyUpdate.outcome moodySearched).index.published.embeddings.get? "b.ts:g:1").map
        CacheEntry.lastAccess = some 2 := by
  have lived : moodySearched.Lived :=
    ((Lived.created create_moodyIndex).after (.pass moodyBuild)).after
      (.ask (.search "g" 5) { files := editedProject "f" 0, provider := 3 } 2)
  have colonFree : ∀ path ∈ (Snapshot.filesOf moodySearched.published.snapshot).keys,
      ColonFree path := by decide +kernel
  -- One evaluation of the update for all that is asked of it.
  have checked : (moodyUpdate.outcome moodySearched).result.toOption.isSome = true ∧
      (∀ path ∈ (Snapshot.filesOf
        (moodyUpdate.outcome moodySearched).index.published.snapshot).keys, ColonFree path) ∧
      (moodyUpdate.outcome moodySearched).index.published.snapshot.map (fun snapshot =>
        (Snapshot.changedPaths (moodyUpdate.changes moodySearched snapshot),
          (moodyUpdate.handed moodySearched snapshot).map Symbol.name)) =
            some (["a.ts"], ["h2"]) ∧
      ((moodyUpdate.outcome moodySearched).index.published.embeddings.get? "b.ts:g:1").map
        CacheEntry.lastAccess = some 2 := by decide +kernel
  obtain ⟨succeeds, colonFreeAfter, figures, used⟩ := checked
  obtain ⟨stats, answered⟩ := Option.isSome_iff_exists.mp succeeds
  obtain ⟨snapshot, taken, frames⟩ := Visit.frames_of_ok lived (by decide +kernel)
    (fun options request => PassRequest.noConfusion request) (eq_ok_of_toOption answered)
    (fun path member => colonFree path (Std.ExtTreeMap.mem_keys.mpr member))
    (fun path member => colonFreeAfter path (Std.ExtTreeMap.mem_keys.mpr member))
  rw [taken, Option.map_some, Option.some.injEq, Prod.mk.injEq] at figures
  exact ⟨snapshot, taken, frames, figures.1, figures.2, used⟩

/-- The index of the same project that takes digests. -/
def digestIndex : Index Unit where
  root := "/p"
  settings := { indexer := { ignorePatterns := [] } }
  parser := wordParser

/-- This index after its first build. -/
def digestedIndex : Index Unit := (firstBuild.outcome digestIndex).index

/-- The update of a file that was touched a minute later. -/
def touchingUpdate : Visit Unit where
  request := .update ["a.ts"]
  workspace := { files := editedProject "f" 60000, provider := () }
  now := 2

/-- The change set of this update is empty, since the digest is the same, and yet the file has a
newer record than before. -/
theorem exists_record_renewed :
    digestedIndex.Lived ∧ digestedIndex.phase = .ready ∧
      (∀ path ∈ (Snapshot.filesOf digestedIndex.published.snapshot).keys, ColonFree path) ∧
      ∃ stats snapshot old new, (touchingUpdate.outcome digestedIndex).result = .ok stats ∧
        (touchingUpdate.outcome digestedIndex).index.published.snapshot = some snapshot ∧
        Snapshot.changedPaths (touchingUpdate.changes digestedIndex snapshot) = [] ∧
        (Snapshot.filesOf digestedIndex.published.snapshot)["a.ts"]? = some old ∧
        snapshot.files["a.ts"]? = some new ∧ old.modified = 0 ∧ new.modified = 60000 := by
  have root : (editedProject "f" 0).canonical "/p" = .ok "/p" :=
    eq_ok_of_toOption (by decide +kernel)
  have created : create (editedProject "f" 0) "/p" digestIndex.settings wordParser none =
      .ok digestIndex := by
    rw [create, root]
    rfl
  have lived : digestedIndex.Lived := (Lived.created created).after (.pass firstBuild)
  have before : digestedIndex.phase = .ready ∧
      (∀ path ∈ (Snapshot.filesOf digestedIndex.published.snapshot).keys, ColonFree path) ∧
      ((Snapshot.filesOf digestedIndex.published.snapshot)["a.ts"]?).map FileRecord.modified =
        some 0 := by decide +kernel
  have after : (touchingUpdate.outcome digestedIndex).result.toOption.isSome = true ∧
      (touchingUpdate.outcome digestedIndex).index.published.snapshot.map (fun snapshot =>
        (Snapshot.changedPaths (touchingUpdate.changes digestedIndex snapshot),
          (snapshot.files["a.ts"]?).map FileRecord.modified)) = some ([], some 60000) := by
    decide +kernel
  obtain ⟨ready, colonFree, earlier⟩ := before
  obtain ⟨succeeds, later⟩ := after
  obtain ⟨old, had, oldTime⟩ := Option.map_eq_some_iff.mp earlier
  obtain ⟨stats, answered⟩ := Option.isSome_iff_exists.mp succeeds
  obtain ⟨snapshot, taken, same⟩ := Option.map_eq_some_iff.mp later
  rw [Prod.mk.injEq] at same
  obtain ⟨new, has, newTime⟩ := Option.map_eq_some_iff.mp same.2
  exact ⟨lived, ready, colonFree, stats, snapshot, old, new, eq_ok_of_toOption answered, taken,
    same.1, had, has, oldTime, newTime⟩

end Index

end SourceAtlas
