import SourceAtlas.Proofs.Embedding.Pairing

/-!
# Runs of cache operations

Every cache in use comes out of a run of operations on the empty one
(`afterOperations`), each with whatever symbol table it is paired with at the
time. After every run each vector stands under its own identifier
(`Identified`), whether or not a symbol is left for it.
-/

namespace SourceAtlas.EmbeddingCache

/-- What is done to a cache. -/
inductive Operation where
  /-- Store a vector; one that is refused leaves the cache as it is. -/
  | insert (symbols : SymbolTable) (id : String) (vector : Embedding) (now : Int)
  /-- Drop the vector of a symbol. -/
  | remove (id : String)
  /-- Note an access. -/
  | touch (id : String) (now : Int)
  /-- Search, which notes the access to what is found. -/
  | search (symbols : SymbolTable) (query : Embedding) (floor : Float32) (limit : Nat) (now : Int)
  /-- Drop the vectors without a symbol. -/
  | purgeOrphans (symbols : SymbolTable)
  /-- Drop everything. -/
  | clear
  /-- Start over from stored entries. -/
  | restore (symbols : SymbolTable) (stored : List CacheEntry)
  /-- Bring symbols and vectors under a budget. -/
  | enforce (budget : MemoryBudget) (symbols : SymbolTable)

/-- The cache after an operation. -/
def Operation.apply (cache : EmbeddingCache) : Operation → EmbeddingCache
  | insert symbols id vector now =>
    match cache.insert symbols id vector now with
    | .ok next => next
    | .error _ => cache
  | remove id => cache.remove id
  | touch id now => cache.touch id now
  | search symbols query floor limit now => (cache.search symbols query floor limit now).2
  | purgeOrphans symbols => cache.purgeOrphans symbols
  | clear => empty
  | restore symbols stored => ofStored symbols stored
  | enforce budget symbols => (budget.enforce symbols cache).2.2

/-- The cache after a run of operations on the empty one. -/
def afterOperations (operations : List Operation) : EmbeddingCache :=
  operations.foldl Operation.apply empty

/-- Every vector stands under its own identifier. -/
def Identified (cache : EmbeddingCache) : Prop :=
  ∀ (id : String) (entry : CacheEntry), cache.entries[id]? = some entry → entry.symbolId = id

variable {cache next : EmbeddingCache} {symbols : SymbolTable} {id : String} {now : Int}

/-- A new cache stores nothing under a wrong id. -/
theorem identified_empty : empty.Identified := by
  intro id entry stored
  simp [empty] at stored

/-- An accepted entry is stored under its own id. -/
theorem Identified.insert {vector : Embedding} (identified : cache.Identified)
    (accepted : cache.insert symbols id vector now = .ok next) : next.Identified := by
  obtain ⟨-, -, rfl⟩ := insert_eq_ok_iff.mp accepted
  intro other entry stored
  rw [Std.ExtTreeMap.getElem?_insert] at stored
  split at stored
  next same =>
    cases stored
    exact Std.LawfulEqCmp.eq_of_compare same
  next => exact identified other entry stored

/-- A loaded cache stores every entry under its own id. -/
theorem identified_ofStored (symbols : SymbolTable) (stored : List CacheEntry) :
    (ofStored symbols stored).Identified :=
  fun _ _ found => (paired_ofStored symbols stored).keyed found

/-- What is left after removals stays under its ids. -/
theorem Identified.foldl_remove (identified : cache.Identified) (ids : List String) :
    (ids.foldl EmbeddingCache.remove cache).Identified := by
  intro id entry stored
  rw [entries_foldl_remove] at stored
  split at stored
  next => cases stored
  next => exact identified id entry stored

/-- What a purge leaves stays under its ids. -/
theorem Identified.purgeOrphans (identified : cache.Identified) (symbols : SymbolTable) :
    (cache.purgeOrphans symbols).Identified := by
  rw [EmbeddingCache.purgeOrphans]
  split
  · exact identified_empty
  · exact identified.foldl_remove _

/-- A touched entry stays under its id. -/
theorem Identified.touch (identified : cache.Identified) (id : String) (now : Int) :
    (cache.touch id now).Identified := by
  intro other entry stored
  rw [EmbeddingCache.touch, Std.ExtTreeMap.getElem?_modify] at stored
  split at stored
  next same =>
    obtain ⟨earlier, found, rfl⟩ := Option.map_eq_some_iff.mp stored
    exact (identified id earlier found).trans (Std.LawfulEqCmp.eq_of_compare same)
  next => exact identified other entry stored

/-- A search leaves every entry under its id. -/
theorem Identified.search (identified : cache.Identified) (symbols : SymbolTable)
    (query : Embedding) (floor : Float32) (limit : Nat) (now : Int) :
    (cache.search symbols query floor limit now).2.Identified := by
  rw [EmbeddingCache.search]
  exact List.foldlRecOn (motive := Identified) _ _ identified
    fun _ identified scored _ => identified.touch scored.entry.symbolId now

/-- Rounds of eviction leave every entry under its id. -/
theorem Identified.enforceFrom (identified : cache.Identified) (highWater fuel : Nat)
    (symbols : SymbolTable) :
    (MemoryBudget.enforceFrom highWater fuel symbols cache).2.2.Identified := by
  induction fuel generalizing symbols cache with
  | zero => exact identified
  | succ fuel inductionHypothesis =>
    rw [MemoryBudget.enforceFrom]
    split
    · exact identified
    · exact inductionHypothesis (identified.foldl_remove _) _

/-- One operation leaves every vector under its own identifier. -/
theorem Identified.apply (identified : cache.Identified) (operation : Operation) :
    (operation.apply cache).Identified := by
  cases operation with
  | insert symbols id vector now =>
    rw [Operation.apply]
    split
    next accepted => exact identified.insert accepted
    next => exact identified
  | remove id => exact identified.foldl_remove [id]
  | touch id now => exact identified.touch id now
  | search symbols query floor limit now => exact identified.search symbols query floor limit now
  | purgeOrphans symbols => exact identified.purgeOrphans symbols
  | clear => exact identified_empty
  | restore symbols stored => exact identified_ofStored symbols stored
  | enforce budget symbols => exact identified.enforceFrom budget.highWater symbols.size symbols

/-- After any operations every entry is stored under its own id. -/
theorem identified_afterOperations (operations : List Operation) :
    (afterOperations operations).Identified :=
  List.foldlRecOn (motive := Identified) operations Operation.apply identified_empty
    fun _ identified operation _ => identified.apply operation

end SourceAtlas.EmbeddingCache
