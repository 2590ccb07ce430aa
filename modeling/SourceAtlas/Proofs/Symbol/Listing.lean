import SourceAtlas.Proofs.Embedding.Eviction
import SourceAtlas.Proofs.Symbol.Disturbance

/-!
# What a table lists for a file

A file that was stored lists the identifiers of its new symbols, and all of them
are found. While every identifier names the file it is listed for (`Labelled`),
dropping or storing a file does nothing to an identifier of another owner.
-/

namespace SourceAtlas.SymbolTable

variable {table : SymbolTable} {symbols : List Symbol} {file id path : String} {now : Int}

/-- Listed symbols are stored under their own ids. -/
theorem Listed.identified (listed : table.Listed) : table.Identified := fun _ _ stored =>
  listed.keyed stored

/-! ## The identifiers of a file -/

/-- After insertions a file holds what it held and its inserted symbols. -/
theorem holds_foldl_insert_iff :
    (symbols.foldl insert table).byFile.Holds file id ↔
      table.byFile.Holds file id ∨ ∃ symbol ∈ symbols, symbol.file = file ∧ symbol.id = id := by
  induction symbols generalizing table with
  | nil => simp
  | cons first rest inductionHypothesis =>
    rw [List.foldl_cons, inductionHypothesis, insert, Buckets.holds_add, List.exists_mem_cons_iff]
    tauto

/-- After a removal every other file holds what it held. -/
theorem holds_removeFile_iff :
    (table.removeFile path).byFile.Holds file id ↔ table.byFile.Holds file id ∧ path ≠ file := by
  rw [byFile_removeFile, Buckets.holds_erase]

/-- After removals every other file holds what it held. -/
theorem holds_foldl_removeFile_iff {paths : List String} :
    (paths.foldl removeFile table).byFile.Holds file id ↔
      table.byFile.Holds file id ∧ file ∉ paths := by
  induction paths generalizing table with
  | nil => simp
  | cons first rest inductionHypothesis =>
    rw [List.foldl_cons, inductionHypothesis, holds_removeFile_iff, List.mem_cons, not_or, and_assoc,
      ne_comm]

/-- Keeping the first symbol of every id keeps every id. -/
theorem exists_mem_firstById_iff :
    (∃ symbol ∈ firstById ∅ symbols, symbol.id = id) ↔ ∃ symbol ∈ symbols, symbol.id = id := by
  have same : ((firstById ∅ symbols).find? fun symbol => symbol.id = id).isSome =
      (symbols.find? fun symbol => symbol.id = id).isSome :=
    congrArg Option.isSome (find?_firstById ∅ symbols Std.ExtTreeSet.not_mem_empty)
  rw [Bool.eq_iff_iff, List.find?_isSome, List.find?_isSome] at same
  simpa only [decide_eq_true_eq] using same

/-- A stored file lists the identifiers of its new symbols; another one lists what it listed. -/
theorem holds_replaceFile_iff (own : ∀ symbol ∈ symbols, symbol.file = path) :
    (table.replaceFile path symbols now).byFile.Holds file id ↔
      (path = file ∧ ∃ symbol ∈ symbols, symbol.id = id) ∨
        (table.byFile.Holds file id ∧ path ≠ file) := by
  have ownKept : ∀ symbol ∈ firstById ∅ symbols, symbol.file = path := fun symbol member =>
    own symbol (mem_of_mem_firstById member).1
  rw [replaceFile_eq, holds_foldl_insert_iff, holds_removeFile_iff, or_comm,
    ← exists_mem_firstById_iff]
  refine or_congr_left ⟨?_, ?_⟩
  · rintro ⟨symbol, member, named, same⟩
    exact ⟨(ownKept symbol member).symm.trans named, symbol, member, same⟩
  · rintro ⟨rfl, symbol, member, same⟩
    exact ⟨symbol, member, ownKept symbol member, same⟩

/-- A replaced file lists the ids of its new symbols. -/
theorem mem_idsOfFile_replaceFile (own : ∀ symbol ∈ symbols, symbol.file = path) :
    id ∈ (table.replaceFile path symbols now).idsOfFile path ↔
      ∃ symbol ∈ symbols, symbol.id = id := by
  rw [idsOfFile, Buckets.mem_ids_iff, holds_replaceFile_iff own]
  simp

/-- Removing a symbol adds to no file. -/
theorem holds_of_removeSymbol {other : String}
    (held : (table.removeSymbol other).byFile.Holds file id) : table.byFile.Holds file id := by
  rw [removeSymbol] at held
  split at held
  · exact (Buckets.holds_drop.mp held).1
  · exact held

/-- Removing symbols adds to no file. -/
theorem holds_of_foldl_removeSymbol {ids : List String}
    (held : (ids.foldl removeSymbol table).byFile.Holds file id) : table.byFile.Holds file id := by
  induction ids generalizing table with
  | nil => exact held
  | cons first rest inductionHypothesis => exact holds_of_removeSymbol (inductionHypothesis held)

/-- No file lists an id twice. -/
theorem nodup_idsOfFile (table : SymbolTable) (file : String) : (table.idsOfFile file).Nodup :=
  Std.ExtTreeSet.distinct_toList.imp fun {first second} apart same => by
    simp [same] at apart

/-- What is listed for a stored file is found under its own identifier. -/
theorem found_of_mem_idsOfFile_replaceFile (own : ∀ symbol ∈ symbols, symbol.file = path)
    (member : id ∈ (table.replaceFile path symbols now).idsOfFile path) :
    ∃ symbol ∈ (table.replaceFile path symbols now).get? id, symbol.id = id := by
  obtain ⟨listed, inside, same⟩ := (mem_idsOfFile_replaceFile own).mp member
  have found : (symbols.find? fun symbol => symbol.id = id).isSome := by
    rw [List.find?_isSome]
    exact ⟨listed, inside, decide_eq_true same⟩
  obtain ⟨symbol, first⟩ := Option.isSome_iff_exists.mp found
  refine ⟨symbol, ?_, by simpa using List.find?_some first⟩
  rw [get?, symbols_replaceFile, first]
  rfl

/-- The symbols of a file have those identifiers that it lists and that are found. -/
theorem ids_inFile_perm_filter
    (keyed : ∀ id ∈ table.idsOfFile file, ∀ symbol ∈ table.get? id, symbol.id = id) :
    ((table.inFile file).map Symbol.id).Perm ((table.idsOfFile file).filter table.contains) := by
  refine ((List.mergeSort_perm _ _).map _).trans (List.Perm.of_eq ?_)
  rw [lookup, List.map_filterMap, ← List.filterMap_eq_filter]
  refine List.filterMap_congr fun id member => ?_
  have known : table.contains id = (table.get? id).isSome :=
    Std.ExtTreeMap.contains_eq_isSome_getElem?
  rw [Option.guard, known]
  cases stored : table.get? id with
  | none => rfl
  | some symbol => rw [Option.map_some, keyed id member symbol stored, Option.isSome_some, if_pos rfl]

/-- When all that a file lists is found, its symbols have the identifiers that it lists. -/
theorem ids_inFile_perm
    (found : ∀ id ∈ table.idsOfFile file, ∃ symbol ∈ table.get? id, symbol.id = id) :
    ((table.inFile file).map Symbol.id).Perm (table.idsOfFile file) := by
  have all : (table.idsOfFile file).filter table.contains = table.idsOfFile file := by
    refine List.filter_eq_self.mpr fun id member => ?_
    obtain ⟨symbol, stored, -⟩ := found id member
    exact contains_iff.mpr (Option.isSome_of_mem stored)
  rw [← all]
  refine ids_inFile_perm_filter fun id member symbol stored => ?_
  obtain ⟨other, found, same⟩ := found id member
  rwa [Option.mem_unique stored found]

/-! ## Identifiers of other owners -/

/-- An identifier that is listed for a path without a colon names that path. -/
def Labelled (table : SymbolTable) : Prop :=
  ∀ file id : String, table.byFile.Holds file id → ColonFree file → Symbol.ownerOf id = file

/-- In a table without symbols no id is held by a wrong file. -/
theorem labelled_empty : empty.Labelled := by
  intro file id held
  simp [empty] at held

/-- Removing a file leaves every id with the file it names. -/
theorem Labelled.removeFile (labelled : table.Labelled) (path : String) :
    (table.removeFile path).Labelled := fun file id held =>
  labelled file id (holds_removeFile_iff.mp held).1

/-- Replacing the symbols of a file leaves every id with the file it names. -/
theorem Labelled.replaceFile (labelled : table.Labelled)
    (own : ∀ symbol ∈ symbols, symbol.file = path)
    (belong : ColonFree path → BelongTo symbols path) (now : Int) :
    (table.replaceFile path symbols now).Labelled := by
  intro file id held colonFree
  rcases (holds_replaceFile_iff own).mp held with ⟨rfl, symbol, member, rfl⟩ | ⟨before, -⟩
  · exact (belong colonFree symbol member).2
  · exact labelled file id before colonFree

/-- A file does not list an id that names another one. -/
theorem Labelled.not_mem_idsOfFile (labelled : table.Labelled) (colonFree : ColonFree path)
    (foreign : Symbol.ownerOf id ≠ path) : id ∉ table.idsOfFile path := fun member =>
  foreign (labelled path id (Buckets.mem_ids_iff.mp member) colonFree)

/-- Dropping a file does nothing to an identifier of another owner. -/
theorem Labelled.symbols_removeFile (labelled : table.Labelled) (colonFree : ColonFree path)
    (foreign : Symbol.ownerOf id ≠ path) :
    (table.removeFile path).symbols[id]? = table.symbols[id]? := by
  rw [SymbolTable.symbols_removeFile, if_neg (labelled.not_mem_idsOfFile colonFree foreign)]

/-- Storing a file does nothing to an identifier of another owner. -/
theorem Labelled.symbols_replaceFile (labelled : table.Labelled) (belong : BelongTo symbols path)
    (colonFree : ColonFree path) (foreign : Symbol.ownerOf id ≠ path) (now : Int) :
    (table.replaceFile path symbols now).symbols[id]? = table.symbols[id]? := by
  have absent : (symbols.find? fun symbol => symbol.id = id) = none := by
    rw [List.find?_eq_none]
    intro symbol member same
    have named := (belong symbol member).2
    rw [of_decide_eq_true same] at named
    exact foreign named
  rw [SymbolTable.symbols_replaceFile, absent, Option.none_or,
    labelled.symbols_removeFile colonFree foreign]

end SourceAtlas.SymbolTable
