import SourceAtlas.Embedding.Eviction
import SourceAtlas.Proofs.Embedding.Pairing

/-!
# Eviction ends within the budget

A round of an eviction takes out the symbols that it lists, and it lists one at
least while there are any. For that each symbol has to stand under its own
identifier (`Identified`), which all ways to fill a table see to. So there are
enough rounds, and what an eviction leaves fits or is nothing.
-/

namespace SourceAtlas

namespace SymbolTable

variable {table : SymbolTable} {id : String}

/-- Every symbol stands under its own identifier. -/
def Identified (table : SymbolTable) : Prop :=
  ∀ (id : String) (symbol : Symbol), table.symbols[id]? = some symbol → symbol.id = id

/-- A table without symbols stores nothing under a wrong id. -/
theorem identified_empty : empty.Identified := by
  intro id symbol stored
  simp [empty] at stored

/-- Inserting a symbol stores it under its own id. -/
theorem Identified.insert (identified : table.Identified) (symbol : Symbol) :
    (table.insert symbol).Identified := by
  intro id other stored
  rw [SymbolTable.insert, Std.ExtTreeMap.getElem?_insert] at stored
  split at stored
  next same =>
    cases stored
    exact Std.LawfulEqCmp.eq_of_compare same
  next => exact identified id other stored

/-- Inserting symbols stores each under its own id. -/
theorem Identified.foldl_insert (identified : table.Identified) (symbols : List Symbol) :
    (symbols.foldl SymbolTable.insert table).Identified :=
  List.foldlRecOn symbols _ identified fun _ identified symbol _ => identified.insert symbol

/-- A table made of symbols stores each under its own id. -/
theorem identified_ofSymbols (symbols : List Symbol) (lastUpdated : Int) :
    (ofSymbols symbols lastUpdated).Identified :=
  identified_empty.foldl_insert symbols

/-- What only drops symbols leaves the others under their identifiers. -/
theorem Identified.of_dropped {dropped : List String} {later : SymbolTable}
    (identified : table.Identified)
    (drops : ∀ id, later.symbols[id]? = if id ∈ dropped then none else table.symbols[id]?) :
    later.Identified := by
  intro id symbol stored
  rw [drops] at stored
  split at stored
  next => cases stored
  next => exact identified id symbol stored

/-- What is left of a table without one file stays under its ids. -/
theorem Identified.removeFile (identified : table.Identified) (file : String) :
    (table.removeFile file).Identified :=
  identified.of_dropped (symbols_removeFile table file)

/-- Replacing the symbols of a file stores every symbol under its own id. -/
theorem Identified.replaceFile (identified : table.Identified) (file : String)
    (symbols : List Symbol) (now : Int) : (table.replaceFile file symbols now).Identified :=
  (identified.removeFile file).foldl_insert (firstById ∅ symbols)

/-- What is left after removing ids stays under its ids. -/
theorem Identified.foldl_removeSymbol (identified : table.Identified) (ids : List String) :
    (ids.foldl removeSymbol table).Identified :=
  identified.of_dropped (symbols_foldl_removeSymbol ids table)

/-! ## Fewer symbols -/

/-- Removing an id erases it from the stored symbols. -/
theorem symbols_removeSymbol_eq (table : SymbolTable) (id : String) :
    (table.removeSymbol id).symbols = table.symbols.erase id := by
  refine Std.ExtTreeMap.ext_getElem? fun other => ?_
  rw [symbols_removeSymbol, Std.ExtTreeMap.getElem?_erase]
  simp

/-- Removing an id takes one symbol away, if it is stored. -/
theorem size_removeSymbol (table : SymbolTable) (id : String) :
    (table.removeSymbol id).size = if table.contains id then table.size - 1 else table.size := by
  rw [size, symbols_removeSymbol_eq, Std.ExtTreeMap.size_erase]
  rfl

/-- Removals never make a table larger. -/
theorem size_foldl_removeSymbol_le (ids : List String) (table : SymbolTable) :
    (ids.foldl removeSymbol table).size ≤ table.size := by
  induction ids generalizing table with
  | nil => exact Nat.le_refl _
  | cons first rest inductionHypothesis =>
    have removed := size_removeSymbol table first
    have others := inductionHypothesis (table.removeSymbol first)
    rw [List.foldl_cons]
    split at removed <;> omega

/-- The listed symbols are as many as the size says. -/
theorem length_toList (table : SymbolTable) : table.toList.length = table.size := by
  rw [toList, FileMap.values_eq, List.length_map]
  exact Std.ExtTreeMap.length_toList

end SymbolTable

namespace MemoryBudget

variable {symbols : SymbolTable} {cache : EmbeddingCache}

/-- Symbols and vectors fit a budget together, or there are no symbols. -/
def Holds (budget : MemoryBudget) (contents : SymbolTable × EmbeddingCache) : Prop :=
  contents.2.estimatedBytes contents.1 ≤ budget.highWater ∨ contents.1.size = 0

/-- The symbols listed by age are stored. -/
theorem contains_of_mem_byAge {id : String} (identified : symbols.Identified)
    (listed : id ∈ byAge symbols cache) : symbols.contains id = true := by
  obtain ⟨aged, member, rfl⟩ := List.mem_map.mp listed
  obtain ⟨symbol, stored, rfl⟩ := List.mem_map.mp (List.mem_mergeSort.mp member)
  obtain ⟨key, found⟩ := FileMap.mem_values_iff.mp stored
  rw [identified key symbol found, SymbolTable.contains_iff, found]
  rfl

/-- While there are symbols, a round takes one out at least. -/
theorem size_round_lt (identified : symbols.Identified) (occupied : symbols.size ≠ 0)
    (cache : EmbeddingCache) :
    (((byAge symbols cache).take (roundSize symbols.size)).foldl SymbolTable.removeSymbol
      symbols).size < symbols.size := by
  have listed : (byAge symbols cache).length = symbols.size := by
    rw [byAge, List.length_map, List.length_mergeSort, List.length_map, SymbolTable.length_toList]
  have some : 0 < roundSize symbols.size := by
    rw [roundSize]
    omega
  cases aged : byAge symbols cache with
  | nil =>
    rw [aged] at listed
    exact absurd listed.symm occupied
  | cons oldest younger =>
    have first : oldest ∈ byAge symbols cache := by simp [aged]
    have stored := contains_of_mem_byAge identified first
    have removed := SymbolTable.size_removeSymbol symbols oldest
    rw [if_pos stored] at removed
    rw [List.take_cons some, List.foldl_cons]
    have others := SymbolTable.size_foldl_removeSymbol_le
      (younger.take (roundSize symbols.size - 1)) (symbols.removeSymbol oldest)
    omega

/-- With a round for each symbol, an eviction goes on until the rest fits or nothing is left. -/
theorem holds_enforceFrom {fuel : Nat} (budget : MemoryBudget) (identified : symbols.Identified)
    (enough : symbols.size ≤ fuel) :
    budget.Holds (enforceFrom budget.highWater fuel symbols cache).2 := by
  induction fuel generalizing symbols cache with
  | zero => exact .inr (Nat.le_zero.mp enough)
  | succ fuel inductionHypothesis =>
    rw [enforceFrom]
    split
    next done => simpa [Holds] using done
    next exceeded =>
      have occupied : symbols.size ≠ 0 := fun vacant => exceeded (by simp [vacant])
      have fewer := size_round_lt identified occupied cache
      exact inductionHypothesis (identified.foldl_removeSymbol _) (by omega)

/-- After an enforcement the budget holds. -/
theorem holds_enforce (budget : MemoryBudget) (identified : symbols.Identified) :
    budget.Holds (budget.enforce symbols cache).2 :=
  holds_enforceFrom budget identified (Nat.le_refl _)

/-- Rounds of eviction leave every symbol under its own id. -/
theorem identified_enforceFrom (identified : symbols.Identified) (highWater fuel : Nat) :
    (enforceFrom highWater fuel symbols cache).2.1.Identified := by
  induction fuel generalizing symbols cache with
  | zero => exact identified
  | succ fuel inductionHypothesis =>
    rw [enforceFrom]
    split
    next => exact identified
    next => exact inductionHypothesis (identified.foldl_removeSymbol _)

end MemoryBudget

namespace EmbeddingCache

variable {symbols : SymbolTable} {cache : EmbeddingCache}

/-- Searching takes no memory. -/
theorem estimatedBytes_search (query : Embedding) (floor : Float32) (limit : Nat) (now : Int) :
    (cache.search symbols query floor limit now).2.estimatedBytes symbols =
      cache.estimatedBytes symbols := by
  rw [search]
  refine List.foldlRecOn (motive := fun (later : EmbeddingCache) =>
    later.estimatedBytes symbols = cache.estimatedBytes symbols) _ _ rfl ?_
  intro later same scored _
  rw [← same]
  simp only [estimatedBytes, touch, size, Std.ExtTreeMap.size_modify]

end EmbeddingCache

end SourceAtlas
