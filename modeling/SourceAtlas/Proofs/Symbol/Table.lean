import SourceAtlas.Proofs.FileMap
import SourceAtlas.Symbol.Table

/-!
# The look-up maps of a symbol table

The maps by name, file and kind are projections of the map of symbols
(`Indexed`): an identifier stands under a key exactly when its symbol has that
key, and no set of identifiers is empty. Such maps are determined by the
symbols, so what an operation does to a table is said by what it does to the
look-up of an identifier.
-/

namespace SourceAtlas

namespace Buckets

variable {buckets : Buckets} {key other id id' : String}

/-- An identifier stands under a key. -/
def Holds (buckets : Buckets) (key id : String) : Prop := id ∈ (buckets[key]?).getD ∅

/-- No set of identifiers is empty. -/
def Tidy (buckets : Buckets) : Prop := ∀ key : String, buckets[key]? ≠ some ∅

/-- A bucket lists the ids that it holds. -/
theorem mem_ids_iff : id ∈ buckets.ids key ↔ buckets.Holds key id := Std.ExtTreeSet.mem_toList

/-- Without buckets nothing is held. -/
@[simp]
theorem holds_empty : ¬(∅ : Buckets).Holds key id := by simp [Holds]

/-- Without buckets none is empty. -/
theorem tidy_empty : Tidy ∅ := by
  intro key found
  simp at found

/-- An added id is held, and so is everything that was. -/
@[simp]
theorem holds_add :
    (buckets.add key id).Holds other id' ↔ (key = other ∧ id = id') ∨ buckets.Holds other id' := by
  simp only [Holds, add, Std.ExtTreeMap.getElem?_alter, Std.LawfulEqCmp.compare_eq_iff_eq]
  by_cases same : key = other
  · subst same
    simp [Std.ExtTreeSet.mem_insert]
  · simp [same]

/-- An added id leaves no bucket empty. -/
theorem Tidy.add (tidy : buckets.Tidy) : (buckets.add key id).Tidy := by
  intro other found
  rw [Buckets.add, Std.ExtTreeMap.getElem?_alter] at found
  split at found
  · simp at found
  · exact tidy other found

/-- A dropped id is no longer held under its key, and everything else is. -/
@[simp]
theorem holds_drop :
    (buckets.drop key id).Holds other id' ↔
      buckets.Holds other id' ∧ ¬(key = other ∧ id = id') := by
  simp only [Holds, drop, Std.ExtTreeMap.getElem?_alter, Std.LawfulEqCmp.compare_eq_iff_eq]
  by_cases same : key = other
  · subst same
    cases held : buckets[key]? with
    | none => simp
    | some known =>
      by_cases left : (known.erase id).isEmpty
      · -- The set that would be left is empty, so nothing but `id` was in it.
        have gone : ∀ member, member ∉ known.erase id := by
          intro member
          rw [Std.ExtTreeSet.isEmpty_iff.mp left]
          exact Std.ExtTreeSet.not_mem_empty
        have only := gone id'
        simp only [Std.ExtTreeSet.mem_erase] at only
        simp only [left]
        simpa [and_comm] using only
      · simp [left, and_comm]
  · simp [same]

/-- A dropped id leaves no bucket empty. -/
theorem Tidy.drop (tidy : buckets.Tidy) : (buckets.drop key id).Tidy := by
  intro other found
  rw [Buckets.drop, Std.ExtTreeMap.getElem?_alter] at found
  split at found
  · split at found
    · dsimp only at found
      split at found
      · cases found
      · next left => exact left (Std.ExtTreeSet.isEmpty_iff.mpr (Option.some.inj found))
    · cases found
  · exact tidy other found

/-- Erasing a key takes its bucket and leaves every other one. -/
@[simp]
theorem holds_erase :
    Holds (buckets.erase key) other id ↔ buckets.Holds other id ∧ key ≠ other := by
  simp only [Holds, Std.ExtTreeMap.getElem?_erase, Std.LawfulEqCmp.compare_eq_iff_eq]
  by_cases same : key = other <;> simp [same]

/-- Erasing a key leaves no bucket empty. -/
theorem Tidy.erase (tidy : buckets.Tidy) : Tidy (buckets.erase key) := by
  intro other found
  rw [Std.ExtTreeMap.getElem?_erase] at found
  split at found
  · cases found
  · exact tidy other found

/-- Maps without empty sets are equal when the same identifiers stand under the same keys. -/
theorem ext_holds {first second : Buckets} (firstTidy : first.Tidy) (secondTidy : second.Tidy)
    (same : ∀ key id, first.Holds key id ↔ second.Holds key id) : first = second := by
  refine Std.ExtTreeMap.ext_getElem? fun key => ?_
  have sets : (first[key]?).getD ∅ = (second[key]?).getD ∅ :=
    Std.ExtTreeSet.ext_mem fun id => same key id
  cases firstHeld : first[key]? with
  | none =>
    cases secondHeld : second[key]? with
    | none => rfl
    | some ids =>
      rw [firstHeld, secondHeld, Option.getD_none, Option.getD_some] at sets
      exact absurd (sets ▸ secondHeld) (secondTidy key)
  | some ids =>
    cases secondHeld : second[key]? with
    | none =>
      rw [firstHeld, secondHeld, Option.getD_none, Option.getD_some] at sets
      exact absurd (sets ▸ firstHeld) (firstTidy key)
    | some others =>
      rw [firstHeld, secondHeld, Option.getD_some, Option.getD_some] at sets
      rw [sets]

/-- A map is the projection of the symbols under a key. -/
structure Projects (buckets : Buckets) (symbols : FileMap Symbol) (keyOf : Symbol → String) :
    Prop where
  holds_iff : ∀ {key id : String},
    buckets.Holds key id ↔ ∃ symbol, symbols[id]? = some symbol ∧ keyOf symbol = key
  tidy : buckets.Tidy

namespace Projects

variable {symbols symbols' : FileMap Symbol} {keyOf : Symbol → String} {symbol : Symbol}

/-- Without symbols no buckets are needed. -/
theorem empty : Projects ∅ ∅ keyOf where
  holds_iff := by simp
  tidy := tidy_empty

/-- A projection is determined by the keys of the symbols. -/
theorem ext {first second : Buckets} (projects : first.Projects symbols keyOf)
    (projects' : second.Projects symbols' keyOf)
    (same : ∀ id : String, (symbols[id]?).map keyOf = (symbols'[id]?).map keyOf) :
    first = second := by
  refine ext_holds projects.tidy projects'.tidy fun key id => ?_
  rw [projects.holds_iff, projects'.holds_iff, ← Option.map_eq_some_iff,
    ← Option.map_eq_some_iff, same id]

/-- A new symbol is put into the bucket of its key. -/
theorem insert (projects : buckets.Projects symbols keyOf) (fresh : symbols[id]? = none) :
    (buckets.add (keyOf symbol) id).Projects (symbols.insert id symbol) keyOf where
  holds_iff {key id'} := by
    rw [holds_add, projects.holds_iff, Std.ExtTreeMap.getElem?_insert]
    by_cases same : id = id'
    · subst same
      simp [fresh]
    · simp [same]
  tidy := projects.tidy.add

/-- An erased symbol is dropped from the bucket of its key. -/
theorem erase (projects : buckets.Projects symbols keyOf) (stored : symbols[id]? = some symbol) :
    (buckets.drop (keyOf symbol) id).Projects (symbols.erase id) keyOf where
  holds_iff {key id'} := by
    rw [holds_drop, projects.holds_iff, Std.ExtTreeMap.getElem?_erase]
    by_cases same : id = id'
    · subst same
      simp [stored]
    · simp [same]
  tidy := projects.tidy.drop

end Projects

end Buckets

namespace SymbolTable

variable {table : SymbolTable} {symbol : Symbol} {id file : String}

/-- Symbols stand under their identifiers, and the maps by name and by kind project them. -/
structure IndexedByNameAndKind (table : SymbolTable) : Prop where
  keyed : ∀ {id : String} {symbol : Symbol}, table.symbols[id]? = some symbol → symbol.id = id
  names : table.byName.Projects table.symbols Symbol.name
  kinds : table.byKind.Projects table.symbols fun symbol => symbol.kind.label

/-- Symbols stand under their identifiers, and all three maps project them. -/
structure Indexed (table : SymbolTable) : Prop extends IndexedByNameAndKind table where
  files : table.byFile.Projects table.symbols Symbol.file

/-- A table without symbols is indexed. -/
theorem indexed_empty : empty.Indexed where
  keyed := by simp [empty]
  names := .empty
  kinds := .empty
  files := .empty

/-- A file lists the ids of its stored symbols. -/
theorem Indexed.mem_idsOfFile_iff (indexed : table.Indexed) :
    id ∈ table.idsOfFile file ↔ ∃ symbol, table.symbols[id]? = some symbol ∧ symbol.file = file := by
  rw [idsOfFile, Buckets.mem_ids_iff, indexed.files.holds_iff]

/-- A symbol under a new id keeps the table indexed. -/
theorem Indexed.insert (indexed : table.Indexed) (fresh : table.symbols[symbol.id]? = none) :
    (table.insert symbol).Indexed where
  keyed {id stored} found := by
    rw [SymbolTable.insert, Std.ExtTreeMap.getElem?_insert] at found
    split at found
    · next same =>
      cases found
      exact Std.LawfulEqCmp.eq_of_compare same
    · exact indexed.keyed found
  names := indexed.names.insert fresh
  kinds := indexed.kinds.insert fresh
  files := indexed.files.insert fresh

/-! ## Dropping symbols -/

/-- Forgetting an id takes its symbol and leaves every other one. -/
theorem symbols_forget (table : SymbolTable) (id other : String) :
    (table.forget id).symbols[other]? = if id = other then none else table.symbols[other]? := by
  rw [forget]
  split
  · simp [Std.ExtTreeMap.getElem?_erase]
  · next stored =>
    split
    · next same => rw [← same, stored]
    · rfl

/-- Forgetting an id leaves the ids of the files. -/
theorem byFile_forget (table : SymbolTable) (id : String) :
    (table.forget id).byFile = table.byFile := by
  rw [forget]
  split <;> rfl

/-- Forgetting an id keeps the indexes by name and by kind. -/
theorem IndexedByNameAndKind.forget (indexed : table.IndexedByNameAndKind) :
    (table.forget id).IndexedByNameAndKind := by
  rw [SymbolTable.forget]
  split
  · next symbol stored =>
    refine ⟨?_, indexed.names.erase stored, indexed.kinds.erase stored⟩
    intro other symbol found
    rw [Std.ExtTreeMap.getElem?_erase] at found
    split at found
    · cases found
    · exact indexed.keyed found
  · exact indexed

/-- Forgetting ids takes their symbols and leaves every other one. -/
theorem symbols_foldl_forget (ids : List String) (table : SymbolTable) (id : String) :
    (ids.foldl forget table).symbols[id]? = if id ∈ ids then none else table.symbols[id]? :=
  lookup_foldl_drop (fun (table : SymbolTable) id => table.symbols[id]?) symbols_forget ids table id

/-- Forgetting ids leaves the ids of the files. -/
theorem byFile_foldl_forget (ids : List String) (table : SymbolTable) :
    (ids.foldl forget table).byFile = table.byFile := by
  induction ids generalizing table with
  | nil => rfl
  | cons first rest inductionHypothesis =>
    rw [List.foldl_cons, inductionHypothesis, byFile_forget]

/-- Forgetting ids keeps the indexes by name and by kind. -/
theorem IndexedByNameAndKind.foldl_forget (ids : List String)
    (indexed : table.IndexedByNameAndKind) :
    (ids.foldl SymbolTable.forget table).IndexedByNameAndKind := by
  induction ids generalizing table with
  | nil => exact indexed
  | cons first rest inductionHypothesis => exact inductionHypothesis indexed.forget

/-- What goes with a file is what is listed for it. -/
theorem fst_takeFile (table : SymbolTable) (file : String) :
    (table.takeFile file).1 = table.idsOfFile file := rfl

/-- Removing a file erases its bucket and forgets its ids. -/
theorem removeFile_eq (table : SymbolTable) (file : String) :
    table.removeFile file =
      (table.idsOfFile file).foldl forget { table with byFile := table.byFile.erase file } := rfl

/-- Dropping a file drops what is listed for it. -/
theorem symbols_removeFile (table : SymbolTable) (file id : String) :
    (table.removeFile file).symbols[id]? =
      if id ∈ table.idsOfFile file then none else table.symbols[id]? := by
  rw [removeFile_eq, symbols_foldl_forget]

/-- Removing a file erases its bucket. -/
theorem byFile_removeFile (table : SymbolTable) (file : String) :
    (table.removeFile file).byFile = table.byFile.erase file := by
  rw [removeFile_eq, byFile_foldl_forget]

/-- Dropping a file keeps exactly the symbols of the other files. -/
theorem Indexed.symbols_removeFile (indexed : table.Indexed) (file id : String) :
    (table.removeFile file).symbols[id]? =
      (table.symbols[id]?).filter fun symbol => symbol.file ≠ file := by
  rw [SymbolTable.symbols_removeFile]
  split
  · next listed =>
    obtain ⟨symbol, stored, own⟩ := indexed.mem_idsOfFile_iff.mp listed
    simp [stored, own, Option.filter_some]
  · next unlisted =>
    cases stored : table.symbols[id]? with
    | none => rfl
    | some symbol =>
      have others : symbol.file ≠ file := fun own =>
        unlisted (indexed.mem_idsOfFile_iff.mpr ⟨symbol, stored, own⟩)
      simp [others, Option.filter_some]

/-- Removing a file keeps the table indexed. -/
theorem Indexed.removeFile (indexed : table.Indexed) (file : String) :
    (table.removeFile file).Indexed := by
  have start : { table with byFile := table.byFile.erase file }.IndexedByNameAndKind :=
    ⟨indexed.keyed, indexed.names, indexed.kinds⟩
  refine ⟨start.foldl_forget _, ⟨?_, ?_⟩⟩
  · intro key id
    rw [indexed.symbols_removeFile, byFile_removeFile, Buckets.holds_erase,
      indexed.files.holds_iff]
    cases stored : table.symbols[id]? with
    | none => simp
    | some symbol => grind
  · rw [byFile_removeFile]
    exact indexed.files.tidy.erase

/-- Removing an id takes its symbol and leaves every other one. -/
theorem symbols_removeSymbol (table : SymbolTable) (id other : String) :
    (table.removeSymbol id).symbols[other]? =
      if id = other then none else table.symbols[other]? := by
  rw [removeSymbol]
  split
  · exact symbols_forget table id other
  · next stored =>
    split
    · next same => rw [← same, stored]
    · rfl

/-- Removing ids takes their symbols and leaves every other one. -/
theorem symbols_foldl_removeSymbol (ids : List String) (table : SymbolTable) (id : String) :
    (ids.foldl removeSymbol table).symbols[id]? = if id ∈ ids then none else table.symbols[id]? :=
  lookup_foldl_drop (fun (table : SymbolTable) id => table.symbols[id]?) symbols_removeSymbol ids
    table id

/-- Removing an id keeps the table indexed. -/
theorem Indexed.removeSymbol (indexed : table.Indexed) (id : String) :
    (table.removeSymbol id).Indexed := by
  rw [SymbolTable.removeSymbol]
  split
  · next symbol stored =>
    have kept : (table.forget id).IndexedByNameAndKind := indexed.toIndexedByNameAndKind.forget
    have erased : (table.forget id).symbols = table.symbols.erase id := by rw [forget, stored]
    have files := indexed.files.erase stored
    rw [← erased] at files
    exact ⟨⟨kept.keyed, kept.names, kept.kinds⟩, files⟩
  · exact indexed

/-! ## Storing symbols -/

/-- Inserting symbols of distinct ids finds each, and what was stored under other ids. -/
theorem symbols_foldl_insert (symbols : List Symbol)
    (distinct : symbols.Pairwise fun first second => first.id ≠ second.id)
    (table : SymbolTable) (id : String) :
    (symbols.foldl insert table).symbols[id]? =
      (symbols.find? fun symbol => symbol.id = id).or table.symbols[id]? := by
  induction symbols generalizing table with
  | nil => rfl
  | cons first rest inductionHypothesis =>
    obtain ⟨apart, restDistinct⟩ := List.pairwise_cons.mp distinct
    rw [List.foldl_cons, inductionHypothesis restDistinct, insert, Std.ExtTreeMap.getElem?_insert]
    by_cases same : first.id = id
    · -- The later symbols have other identifiers, so the first one stays.
      have absent : (rest.find? fun symbol => symbol.id = id) = none := by
        rw [List.find?_eq_none]
        intro symbol member
        simpa [← same] using Ne.symm (apart symbol member)
      simp [same, absent]
    · simp [same]

/-- Symbols under new and distinct ids keep the table indexed. -/
theorem Indexed.foldl_insert {symbols : List Symbol} (indexed : table.Indexed)
    (distinct : symbols.Pairwise fun first second => first.id ≠ second.id)
    (fresh : ∀ symbol ∈ symbols, table.symbols[symbol.id]? = none) :
    (symbols.foldl SymbolTable.insert table).Indexed := by
  induction symbols generalizing table with
  | nil => exact indexed
  | cons first rest inductionHypothesis =>
    obtain ⟨apart, restDistinct⟩ := List.pairwise_cons.mp distinct
    refine inductionHypothesis (indexed.insert (fresh first (.head _))) restDistinct ?_
    intro symbol member
    rw [SymbolTable.insert, Std.ExtTreeMap.getElem?_insert]
    simp [apart symbol member, fresh symbol (.tail _ member)]

/-- The table of symbols with different identifiers holds each of them. -/
theorem symbols_ofSymbols {symbols : List Symbol}
    (distinct : symbols.Pairwise fun first second => first.id ≠ second.id) (lastUpdated : Int)
    (id : String) :
    (ofSymbols symbols lastUpdated).symbols[id]? = symbols.find? fun symbol => symbol.id = id := by
  rw [ofSymbols, symbols_foldl_insert symbols distinct]
  simp [empty]

/-- A table made of symbols of distinct ids is indexed. -/
theorem indexed_ofSymbols {symbols : List Symbol}
    (distinct : symbols.Pairwise fun first second => first.id ≠ second.id) (lastUpdated : Int) :
    (ofSymbols symbols lastUpdated).Indexed := by
  have stored := indexed_empty.foldl_insert distinct (by simp [empty])
  exact ⟨⟨stored.keyed, stored.names, stored.kinds⟩, stored.files⟩

/-- The first symbols of their ids are symbols whose ids were not seen before. -/
theorem mem_of_mem_firstById {seen : FileSet} {symbols : List Symbol}
    (member : symbol ∈ firstById seen symbols) : symbol ∈ symbols ∧ symbol.id ∉ seen := by
  induction symbols generalizing seen with
  | nil => cases member
  | cons first rest inductionHypothesis =>
    rw [firstById] at member
    split at member
    · obtain ⟨later, unseen⟩ := inductionHypothesis member
      exact ⟨.tail _ later, unseen⟩
    · next unseen =>
      cases member with
      | head => exact ⟨.head _, by simpa using unseen⟩
      | tail _ member =>
        obtain ⟨later, unseen⟩ := inductionHypothesis member
        exact ⟨.tail _ later, fun known => unseen (Std.ExtTreeSet.mem_insert.mpr (.inr known))⟩

/-- Of symbols with one identifier only one is kept. -/
theorem pairwise_firstById (seen : FileSet) (symbols : List Symbol) :
    (firstById seen symbols).Pairwise fun first second => first.id ≠ second.id := by
  induction symbols generalizing seen with
  | nil => exact .nil
  | cons first rest inductionHypothesis =>
    rw [firstById]
    split
    · exact inductionHypothesis seen
    · refine .cons ?_ (inductionHypothesis _)
      intro symbol member same
      have unseen := (mem_of_mem_firstById member).2
      exact unseen (same ▸ Std.ExtTreeSet.mem_insert_self)

/-- The symbol kept for an identifier is the first one that has it. -/
theorem find?_firstById (seen : FileSet) (symbols : List Symbol) (unseen : id ∉ seen) :
    ((firstById seen symbols).find? fun symbol => symbol.id = id) =
      symbols.find? fun symbol => symbol.id = id := by
  induction symbols generalizing seen with
  | nil => rfl
  | cons first rest inductionHypothesis =>
    rw [firstById]
    by_cases same : first.id = id
    · simp [same, unseen]
    · split
      · simp [same, inductionHypothesis seen unseen]
      · have unseen' : id ∉ seen.insert first.id := by simp [same, unseen]
        simp [same, inductionHypothesis _ unseen']

/-- No new symbol has the identifier of a symbol stored for another file. -/
def Admits (table : SymbolTable) (file : String) (symbols : List Symbol) : Prop :=
  ∀ symbol ∈ symbols, ∀ stored : Symbol,
    table.symbols[symbol.id]? = some stored → stored.file = file

/-- What goes when a file is stored anew is what was listed for it. -/
theorem fst_exchangeFile (table : SymbolTable) (file : String) (symbols : List Symbol)
    (now : Int) : (table.exchangeFile file symbols now).1 = table.idsOfFile file := rfl

/-- Replacing removes the file and inserts the first symbol of every id. -/
theorem replaceFile_eq (table : SymbolTable) (file : String) (symbols : List Symbol) (now : Int) :
    table.replaceFile file symbols now =
      { (firstById ∅ symbols).foldl insert (table.removeFile file) with lastUpdated := now } :=
  rfl

/-- Storing a file drops what is listed for it and puts in, for each identifier, the first new
symbol that has it. -/
theorem symbols_replaceFile (table : SymbolTable) (file : String) (symbols : List Symbol)
    (now : Int) (id : String) :
    (table.replaceFile file symbols now).symbols[id]? =
      (symbols.find? fun symbol => symbol.id = id).or (table.removeFile file).symbols[id]? := by
  rw [replaceFile_eq, symbols_foldl_insert _ (pairwise_firstById _ _),
    find?_firstById _ _ Std.ExtTreeSet.not_mem_empty]

/-- Storing a file keeps the symbols of the other files and puts in, for each identifier, the
first new symbol that has it. -/
theorem Indexed.symbols_replaceFile (indexed : table.Indexed) (file : String)
    (symbols : List Symbol) (now : Int) (id : String) :
    (table.replaceFile file symbols now).symbols[id]? =
      (symbols.find? fun symbol => symbol.id = id).or
        ((table.symbols[id]?).filter fun symbol => symbol.file ≠ file) := by
  rw [SymbolTable.symbols_replaceFile, indexed.symbols_removeFile]

/-- Replacing the symbols of a file keeps the table indexed, if it admits the new ones. -/
theorem Indexed.replaceFile {symbols : List Symbol} (indexed : table.Indexed)
    (admitted : table.Admits file symbols) (now : Int) :
    (table.replaceFile file symbols now).Indexed := by
  have fresh : ∀ symbol ∈ firstById ∅ symbols,
      (table.removeFile file).symbols[symbol.id]? = none := by
    intro symbol member
    rw [indexed.symbols_removeFile]
    cases stored : table.symbols[symbol.id]? with
    | none => rfl
    | some other =>
      have own := admitted symbol (mem_of_mem_firstById member).1 other stored
      simp [own, Option.filter_some]
  have stored := (indexed.removeFile file).foldl_insert (pairwise_firstById ∅ symbols) fresh
  exact ⟨⟨stored.keyed, stored.names, stored.kinds⟩, stored.files⟩

end SymbolTable

end SourceAtlas
