import SourceAtlas.Proofs.Files.Replacement
import SourceAtlas.Proofs.Index.Codec
import SourceAtlas.Proofs.Index.Pairing
import SourceAtlas.Proofs.Symbol.Lookup

/-!
# Saving a state and loading it

A saved index holds lists. The table of the listed symbols is the table that was
listed when its look-up maps are projections of its symbols, and the cache of the
listed vectors is the cache that was listed when its vectors are paired with
those symbols. What a save wrote is found under its path as long as no link
stands in its place.
-/

namespace SourceAtlas

namespace SymbolTable

variable {table : SymbolTable}

/-- The listed symbols give back the table with all its look-up maps. -/
theorem Indexed.ofSymbols_toList (indexed : table.Indexed) :
    ofSymbols table.toList table.lastUpdated = table := by
  have distinct : table.toList.Pairwise fun first second => first.id ≠ second.id :=
    List.pairwise_map.mp indexed.nodup_ids_toList
  have stored : ∀ id : String,
      (ofSymbols table.toList table.lastUpdated).symbols[id]? = table.symbols[id]? := by
    intro id
    rw [symbols_ofSymbols distinct]
    cases found : table.toList.find? fun symbol => symbol.id = id with
    | none =>
      cases stored : table.symbols[id]? with
      | none => rfl
      | some symbol =>
        have named := indexed.keyed stored
        have listed := indexed.mem_toList_iff.mpr (named.symm ▸ stored)
        exact absurd named (by simpa using List.find?_eq_none.mp found symbol listed)
    | some symbol =>
      obtain rfl : symbol.id = id := by simpa using List.find?_some found
      exact (indexed.mem_toList_iff.mp (List.mem_of_find?_eq_some found)).symm
  -- A look-up map is determined by the keys of the symbols, in whatever order they went in.
  have rebuilt := indexed_ofSymbols distinct table.lastUpdated
  have keys (keyOf : Symbol → String) (id : String) :
      ((ofSymbols table.toList table.lastUpdated).symbols[id]?).map keyOf =
        (table.symbols[id]?).map keyOf := by rw [stored]
  have symbols := Std.ExtTreeMap.ext_getElem? stored
  have names := rebuilt.names.ext indexed.names (keys _)
  have files := rebuilt.files.ext indexed.files (keys _)
  have kinds := rebuilt.kinds.ext indexed.kinds (keys _)
  calc ofSymbols table.toList table.lastUpdated
      = ⟨table.symbols, table.byName, table.byFile, table.byKind, table.lastUpdated⟩ := by
        rw [← symbols, ← names, ← files, ← kinds]
        rfl
    _ = table := rfl

end SymbolTable

namespace EmbeddingCache

variable {cache : EmbeddingCache} {symbols : SymbolTable}

/-- Entries of known symbols with vectors of one dimension are all put back. -/
theorem foldl_restore {dimension : Option Nat} {stored : List CacheEntry}
    (known : ∀ entry ∈ stored, symbols.contains entry.symbolId = true)
    (sized : ∀ entry ∈ stored, dimension = some entry.vector.length) (start : EmbeddingCache)
    (unset : start.dimension = none ∨ start.dimension = dimension) :
    stored.foldl (fun cache entry =>
        match cache.insert symbols entry.symbolId entry.vector entry.lastAccess with
        | .ok next => next
        | .error _ => cache) start =
      { entries := stored.foldl (fun entries entry => entries.insert entry.symbolId entry)
          start.entries
        dimension := if stored.isEmpty then start.dimension else dimension } := by
  induction stored generalizing start with
  | nil => rfl
  | cons entry rest inductionHypothesis =>
    obtain ⟨knownFirst, knownRest⟩ := List.forall_mem_cons.mp known
    obtain ⟨sizedFirst, sizedRest⟩ := List.forall_mem_cons.mp sized
    have fits : start.dimension.getD entry.vector.length = entry.vector.length := by
      rcases unset with unset | set
      · rw [unset, Option.getD_none]
      · rw [set, sizedFirst, Option.getD_some]
    have accepted : start.insert symbols entry.symbolId entry.vector entry.lastAccess =
        .ok ⟨start.entries.insert entry.symbolId entry, dimension⟩ :=
      insert_eq_ok_iff.mpr ⟨knownFirst, fits, by rw [sizedFirst]⟩
    simp only [List.foldl_cons, accepted]
    rw [inductionHypothesis knownRest sizedRest _ (.inr rfl)]
    simp

/-- The listed vectors give back the cache; without any, the dimension is unset again. -/
theorem Paired.ofStored_toList (paired : cache.Paired symbols) :
    ofStored symbols cache.toList =
      { cache with dimension := if cache.toList.isEmpty then none else cache.dimension } := by
  have listed : ∀ entry ∈ cache.toList, cache.entries[entry.symbolId]? = some entry := by
    intro entry member
    obtain ⟨id, stored⟩ := FileMap.mem_values_iff.mp member
    rwa [paired.keyed stored]
  have known : ∀ entry ∈ cache.toList, symbols.contains entry.symbolId = true :=
    fun entry member => paired.stored (listed entry member)
  have sized : ∀ entry ∈ cache.toList, cache.dimension = some entry.vector.length :=
    fun entry member => paired.sized (listed entry member)
  have entries : cache.toList.foldl (fun entries entry => entries.insert entry.symbolId entry)
      (∅ : FileMap CacheEntry) = cache.entries := by
    calc cache.toList.foldl (fun entries entry => entries.insert entry.symbolId entry) ∅
        = fileMapOf cache.entries.toList := by
          rw [toList, FileMap.values_eq, List.foldl_map, fileMapOf]
          refine List.foldl_ext _ _ _ fun entries entry member => ?_
          rw [paired.keyed (Std.ExtTreeMap.mem_toList_iff_getElem?_eq_some.mp member)]
      _ = cache.entries := fileMapOf_toList cache.entries
  have restored := foldl_restore known sized empty (.inl rfl)
  exact restored.trans (congrArg (EmbeddingCache.mk · _) entries)

end EmbeddingCache

namespace IndexState

/-- What a load gives of a state: all of it but the skipped entries, the failures and the dimension
of no vectors. -/
structure Restored (state loaded : IndexState) : Prop where
  snapshot : loaded.snapshot = state.snapshot.map fun snapshot => { snapshot with skipped := [] }
  symbols : loaded.symbols = state.symbols
  graph : loaded.graph = state.graph
  entries : loaded.embeddings.entries = state.embeddings.entries
  dimension : state.embeddings.toList ≠ [] →
    loaded.embeddings.dimension = state.embeddings.dimension
  stats : loaded.stats = state.stats
  failures : loaded.failures = none

/-- What is listed of a state restores it. -/
theorem restored_toState {state : IndexState} (indexed : state.symbols.Indexed)
    (paired : state.Paired) : state.Restored (SavedIndex.ofState state).toState := by
  have symbols : (SavedIndex.ofState state).toState.symbols = state.symbols :=
    indexed.ofSymbols_toList
  have embeddings : (SavedIndex.ofState state).toState.embeddings =
      { state.embeddings with
        dimension :=
          if state.embeddings.toList.isEmpty then none else state.embeddings.dimension } := by
    rw [← paired.ofStored_toList, ← symbols]
    rfl
  refine ⟨rfl, symbols, rfl, ?_, fun occupied => ?_, rfl, rfl⟩
  · rw [embeddings]
  · rw [embeddings]
    exact if_neg (by simpa using occupied)

end IndexState

namespace SavedIndex

/-- A state whose words and floats are read back is loaded from what is saved of it. -/
theorem Fits.load {state : IndexState} (fits : (ofState state).Fits)
    (finite : (ofState state).IsFinite) (floats : (ofState state).FloatsRecover) :
    (parse? (ofState state).render).map toState = some (ofState state).toState := by
  have unskipped : ∀ snapshot ∈ (ofState state).snapshot, snapshot.skipped = [] := by
    intro snapshot taken
    obtain ⟨whole, -, rfl⟩ := Option.map_eq_some_iff.mp taken
    rfl
  rw [fits.parse?_render finite floats unskipped]
  rfl

end SavedIndex

/-- The place of an index that is saved below a root is plain: its directory is no link, and the
file that is written there first is none either. -/
structure FileSystem.SavesPlainly (files : FileSystem) (root : String) : Prop where
  sound : files.top.isSound = true
  canonical : files.canonical root = .ok root
  directory : files.isDirectory root = true
  plain : files.isLink (PathKey.directory (Settings.indexPath root)) = false
  plainTemporary : files.isLink (Settings.indexPath root ++ ".tmp") = false

namespace Index

open FileSystem

variable {σ : Type} {index : Index σ} {files : FileSystem}

/-- Only an index with a snapshot is saved. -/
theorem isSome_snapshot_of_save {now : Int} (saved : (index.save files now).1 = .ok ()) :
    index.published.snapshot.isSome := by
  rw [save] at saved
  split at saved
  · cases saved
  · next taken => simpa [Option.isSome_iff_ne_none] using taken

/-- The stages of a save that succeeds. -/
theorem stages_of_save {after : FileSystem} {now : Int}
    (saved : index.save files now = (.ok (), after)) :
    ∃ made written, files.makeDirectories (PathKey.directory index.savePath) = .ok made ∧
      made.write (index.savePath ++ ".tmp") (SavedIndex.ofState index.published).render.toUTF8 now =
        .ok written ∧
      written.moveFile (index.savePath ++ ".tmp") index.savePath = .ok after := by
  rw [save] at saved
  split at saved
  · cases saved
  · dsimp only at saved
    split at saved
    · cases saved
    · next made makes =>
      split at saved
      · cases saved
      · next written writes =>
        split at saved
        · cases saved
        · next moves =>
          cases saved
          exact ⟨made, written, makes, writes, moves⟩

/-- The directory of the saved index stands in the root. -/
theorem directory_savePath (index : Index σ) :
    PathKey.directory index.savePath = PathKey.below index.root ".codeindex" := by
  have parts : Settings.directory ++ "/index.json" = ".codeindex" ++ "/" ++ "index.json" := rfl
  rw [savePath, Settings.indexPath, parts, PathKey.below, PathKey.below]
  split <;> simp only [← String.append_assoc] <;> exact PathKey.directory_append (by decide) _

/-- An index is saved below its root. -/
theorem savePath_eq (index : Index σ) :
    index.savePath = PathKey.below index.root ".codeindex/index.json" := rfl

/-- The temporary file is next to the saved one. -/
theorem temporary_eq (index : Index σ) :
    index.savePath ++ ".tmp" = PathKey.below index.root ".codeindex/index.json.tmp" := by
  have name : ".codeindex/index.json.tmp" = ".codeindex/index.json" ++ ".tmp" := rfl
  rw [savePath_eq, name, PathKey.below, PathKey.below]
  split <;> simp only [String.append_assoc]

/-- A reader of the path of the saved index finds what a save wrote. -/
theorem readText_of_save {after : FileSystem} {now : Int} (plainly : files.SavesPlainly index.root)
    (saved : index.save files now = (.ok (), after)) :
    after.readText index.savePath = .ok (SavedIndex.ofState index.published).render := by
  obtain ⟨made, written, makes, writes, moves⟩ := stages_of_save saved
  obtain ⟨entries, located⟩ := exists_entries_of_isDirectory plainly.directory
  obtain ⟨names, path, stands⟩ := exists_names_of_canonical plainly.canonical located
  have valid := (FileNode.sound_nodeAt? plainly.sound stands).1
  have below (key : String) : Spells (PathKey.below index.root key) (names ++ PathKey.segments key) :=
    path ▸ spells_below valid key
  have folder : Spells (PathKey.directory index.savePath) (names ++ [".codeindex"]) := by
    rw [directory_savePath]
    exact below ".codeindex"
  have whole : Spells index.savePath (names ++ [".codeindex"] ++ ["index.json"]) := by
    rw [savePath_eq, List.append_assoc]
    exact below ".codeindex/index.json"
  have part : Spells (index.savePath ++ ".tmp")
      (names ++ [".codeindex"] ++ ["index.json.tmp"]) := by
    rw [temporary_eq, List.append_assoc]
    exact below ".codeindex/index.json.tmp"
  have entryName {name : String} (valid : FileNode.isEntryName name = true) : EntryName name :=
    FileNode.entryName_of_isEntryName valid
  have validFolder : ∀ name ∈ names ++ [".codeindex"], EntryName name :=
    List.forall_mem_append.mpr ⟨valid, by simpa using entryName (by decide)⟩
  have node := node_of_replaced folder part whole validFolder (entryName (by decide))
    (entryName (by decide)) stands plainly.plain plainly.plainTemporary makes writes moves
  exact readText_of_node node

end Index

end SourceAtlas
