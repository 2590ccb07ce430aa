import SourceAtlas.Embedding.Eviction
import SourceAtlas.Proofs.Symbol.Table

/-!
# Vectors are paired with symbols

A cache is `Paired` with a table when every vector stands under its own
identifier, belongs to a symbol of the table and has the dimension of the
cache. Vectors are only ever put in for symbols of the table; when symbols
leave, it is enough that the vectors of the same identifiers leave with them.
-/

namespace SourceAtlas

/-- A table contains an id exactly if it looks up a symbol under it. -/
theorem SymbolTable.contains_iff {table : SymbolTable} {id : String} :
    table.contains id = true ↔ (table.symbols[id]?).isSome = true := by
  rw [contains, Std.ExtTreeMap.contains_eq_isSome_getElem?]

namespace EmbeddingCache

variable {cache next : EmbeddingCache} {symbols left : SymbolTable} {entry : CacheEntry}
  {id : String}

/-- Every vector stands under its own identifier, belongs to a symbol of the table and has the
dimension of the cache. -/
structure Paired (cache : EmbeddingCache) (symbols : SymbolTable) : Prop where
  stored : ∀ {id : String} {entry : CacheEntry},
    cache.entries[id]? = some entry → symbols.contains id = true
  keyed : ∀ {id : String} {entry : CacheEntry},
    cache.entries[id]? = some entry → entry.symbolId = id
  sized : ∀ {id : String} {entry : CacheEntry},
    cache.entries[id]? = some entry → cache.dimension = some entry.vector.length

/-- A new cache has no entry without a symbol. -/
theorem paired_empty (symbols : SymbolTable) : empty.Paired symbols where
  stored := by simp [empty]
  keyed := by simp [empty]
  sized := by simp [empty]

/-! ## Putting vectors in -/

/-- An entry is accepted exactly if its symbol exists and its vector has the dimension. -/
theorem insert_eq_ok_iff {vector : Embedding} {now : Int} :
    cache.insert symbols id vector now = .ok next ↔
      symbols.contains id = true ∧ cache.dimension.getD vector.length = vector.length ∧
        next =
          { entries := cache.entries.insert id { symbolId := id, vector, lastAccess := now }
            dimension := some vector.length } := by
  rw [insert]
  by_cases known : symbols.contains id = true
  · by_cases fits : cache.dimension.getD vector.length = vector.length
    · simp [known, fits, eq_comm]
    · simp [known, fits]
  · simp [known]

/-- An accepted entry has its symbol. -/
theorem Paired.insert {vector : Embedding} {now : Int} (paired : cache.Paired symbols)
    (accepted : cache.insert symbols id vector now = .ok next) : next.Paired symbols := by
  obtain ⟨known, fits, rfl⟩ := insert_eq_ok_iff.mp accepted
  have found : ∀ {other : String} {entry : CacheEntry},
      (cache.entries.insert id ⟨id, vector, now⟩)[other]? = some entry →
        (id = other ∧ entry = ⟨id, vector, now⟩) ∨ cache.entries[other]? = some entry := by
    intro other entry found
    rw [Std.ExtTreeMap.getElem?_insert] at found
    split at found
    · next same =>
      cases found
      exact .inl ⟨Std.LawfulEqCmp.eq_of_compare same, rfl⟩
    · exact .inr found
  refine ⟨?_, ?_, ?_⟩
  · intro other entry member
    rcases found member with ⟨rfl, -⟩ | earlier
    · exact known
    · exact paired.stored earlier
  · intro other entry member
    rcases found member with ⟨rfl, rfl⟩ | earlier
    · rfl
    · exact paired.keyed earlier
  · intro other entry member
    rcases found member with ⟨rfl, rfl⟩ | earlier
    · rfl
    · -- The dimension was set, so the new vector has it as well.
      rw [paired.sized earlier, Option.getD_some] at fits
      rw [fits]

/-- Stored entries that are put back are paired, whatever they are. -/
theorem paired_ofStored (symbols : SymbolTable) (stored : List CacheEntry) :
    (ofStored symbols stored).Paired symbols := by
  rw [ofStored]
  refine List.foldlRecOn (motive := (EmbeddingCache.Paired · symbols)) stored _
    (paired_empty symbols) ?_
  intro cache paired entry _
  split
  · next accepted => exact paired.insert accepted
  · exact paired

/-! ## Vectors that leave -/

/-- Removals take away the listed ids and leave every other entry. -/
theorem entries_foldl_remove (ids : List String) (cache : EmbeddingCache) (id : String) :
    (ids.foldl remove cache).entries[id]? = if id ∈ ids then none else cache.entries[id]? := by
  refine lookup_foldl_drop (fun (cache : EmbeddingCache) id => cache.entries[id]?) ?_ ids cache id
  intro cache id other
  rw [remove, Std.ExtTreeMap.getElem?_erase]
  simp

/-- Removals leave the dimension. -/
theorem dimension_foldl_remove (ids : List String) (cache : EmbeddingCache) :
    (ids.foldl remove cache).dimension = cache.dimension := by
  induction ids generalizing cache with
  | nil => rfl
  | cons first rest inductionHypothesis => exact inductionHypothesis (cache.remove first)

/-- Vectors leave; the symbols that leave are among theirs. -/
theorem Paired.foldl_remove (paired : cache.Paired symbols) {ids : List String}
    (kept : ∀ id, id ∉ ids → symbols.contains id = true → left.contains id = true) :
    (ids.foldl remove cache).Paired left := by
  have found : ∀ {id : String} {entry : CacheEntry},
      (ids.foldl remove cache).entries[id]? = some entry →
        id ∉ ids ∧ cache.entries[id]? = some entry := by
    intro id entry found
    rw [entries_foldl_remove] at found
    split at found
    · cases found
    · next outside => exact ⟨outside, found⟩
  refine ⟨?_, ?_, ?_⟩
  · intro id entry member
    obtain ⟨outside, earlier⟩ := found member
    exact kept id outside (paired.stored earlier)
  · intro id entry member
    exact paired.keyed (found member).2
  · intro id entry member
    rw [dimension_foldl_remove]
    exact paired.sized (found member).2

/-- Nothing is left to purge. -/
theorem Paired.orphans_eq_nil (paired : cache.Paired symbols) : cache.orphans symbols = [] := by
  rw [orphans, List.filter_eq_nil_iff]
  intro id member
  rw [Std.ExtTreeMap.mem_keys, Std.ExtTreeMap.mem_iff_isSome_getElem?] at member
  obtain ⟨entry, found⟩ := Option.isSome_iff_exists.mp member
  simp [paired.stored found]

/-- What a purge leaves has its symbols. -/
theorem Paired.purgeOrphans (paired : cache.Paired symbols) :
    (cache.purgeOrphans symbols).Paired symbols := by
  rw [EmbeddingCache.purgeOrphans, paired.orphans_eq_nil, List.foldl_nil]
  by_cases vacant : cache.entries.isEmpty = true
  · rw [if_pos vacant]
    exact paired_empty symbols
  · rw [if_neg vacant]
    exact paired

/-! ## Accesses -/

/-- A touch adds no entry. -/
theorem Paired.touch (paired : cache.Paired symbols) (id : String) (now : Int) :
    (cache.touch id now).Paired symbols := by
  have found : ∀ {other : String} {entry : CacheEntry},
      (cache.touch id now).entries[other]? = some entry →
        ∃ earlier, cache.entries[other]? = some earlier ∧
          entry.symbolId = earlier.symbolId ∧ entry.vector = earlier.vector := by
    intro other entry found
    rw [EmbeddingCache.touch, Std.ExtTreeMap.getElem?_modify] at found
    split at found
    · next same =>
      obtain ⟨earlier, member, rfl⟩ := Option.map_eq_some_iff.mp found
      rw [Std.LawfulEqCmp.eq_of_compare same] at member
      exact ⟨earlier, member, rfl, rfl⟩
    · exact ⟨entry, found, rfl, rfl⟩
  refine ⟨?_, ?_, ?_⟩
  · intro other entry member
    obtain ⟨earlier, before, -, -⟩ := found member
    exact paired.stored before
  · intro other entry member
    obtain ⟨earlier, before, same, -⟩ := found member
    exact same.trans (paired.keyed before)
  · intro other entry member
    obtain ⟨earlier, before, -, same⟩ := found member
    rw [same]
    exact paired.sized before

/-- A search adds no entry. -/
theorem Paired.search (paired : cache.Paired symbols) (query : Embedding) (floor : Float32)
    (limit : Nat) (now : Int) :
    (cache.search symbols query floor limit now).2.Paired symbols := by
  rw [EmbeddingCache.search]
  refine List.foldlRecOn (motive := (EmbeddingCache.Paired · symbols)) _ _ paired ?_
  intro cache paired scored _
  exact paired.touch scored.entry.symbolId now

end EmbeddingCache

namespace MemoryBudget

/-- Evicted symbols take their vectors along. -/
theorem paired_enforceFrom {symbols : SymbolTable} {cache : EmbeddingCache}
    (paired : cache.Paired symbols) (highWater fuel : Nat) :
    (enforceFrom highWater fuel symbols cache).2.2.Paired
      (enforceFrom highWater fuel symbols cache).2.1 := by
  induction fuel generalizing symbols cache with
  | zero => exact paired
  | succ fuel inductionHypothesis =>
    rw [enforceFrom]
    split
    · exact paired
    · refine inductionHypothesis (paired.foldl_remove fun id outside known => ?_)
      rw [SymbolTable.contains_iff] at known ⊢
      rwa [SymbolTable.symbols_foldl_removeSymbol, if_neg outside]

/-- An eviction takes the entries of the symbols that it takes. -/
theorem paired_enforce {symbols : SymbolTable} {cache : EmbeddingCache}
    (paired : cache.Paired symbols) (budget : MemoryBudget) :
    (budget.enforce symbols cache).2.2.Paired (budget.enforce symbols cache).2.1 :=
  paired_enforceFrom paired budget.highWater symbols.size

end MemoryBudget

end SourceAtlas
