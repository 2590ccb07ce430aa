import Mathlib.Data.List.Induction
import SourceAtlas.Proofs.Embedding.Operations
import SourceAtlas.Proofs.Symbol.Edits

/-!
# The dimension of a cache

The first vector fixes the dimension of a cache. Some of the operations that
take vectors out forget it when none is left (`Operation.forgets`), and the
others keep it: an emptied cache has no dimension exactly when one of the
former was run since a vector was stored last.
-/

namespace SourceAtlas.EmbeddingCache

variable {cache earlier later : EmbeddingCache} {symbols : SymbolTable} {id : String} {now : Int}

/-- A cache without a dimension has no vector. -/
def Dimensioned (cache : EmbeddingCache) : Prop :=
  cache.dimension = none → cache.entries = ∅

/-- Whether an operation gives the dimension up when it leaves no vector. -/
def Operation.forgets : Operation → Bool
  | purgeOrphans _ | clear | restore .. => true
  | insert .. | remove _ | touch .. | search .. | enforce .. => false

/-- A new cache has no vector. -/
theorem dimensioned_empty : empty.Dimensioned :=
  fun _ => rfl

/-! ## Storing in place -/

/-- Storing a vector in place: the symbol is looked up, the dimension is checked or fixed, and the
vector put in, in this order. -/
def store (symbols : SymbolTable) (id : String) (vector : Embedding) (now : Int) :
    EStateM IndexError EmbeddingCache Unit := do
  if !symbols.contains id then throw (.orphanEmbedding id)
  match (← get).dimension with
  | some expected =>
    if expected ≠ vector.length then
      throw (.embedding ("vector for " ++ id ++ " has dimension " ++ toString vector.length ++
        ", expected " ++ toString expected))
  | none => modify fun cache => { cache with dimension := some vector.length }
  modify fun cache =>
    { cache with entries := cache.entries.insert id { symbolId := id, vector, lastAccess := now } }

/-- Both checks come before the first change, so a refused vector leaves nothing behind. -/
theorem run_store (cache : EmbeddingCache) (symbols : SymbolTable) (id : String)
    (vector : Embedding) (now : Int) :
    (store symbols id vector now).run cache =
      match cache.insert symbols id vector now with
      | .ok next => .ok () next
      | .error failure => .error failure cache := by
  by_cases known : symbols.contains id = true
  · cases dimension : cache.dimension with
    | none => simp [store, insert, known, dimension]
    | some expected => by_cases fits : expected = vector.length <;>
        simp [store, insert, known, dimension, fits]
  · simp [store, insert, known]

/-- Vectors of every length are accepted by a cache without a dimension only. -/
theorem insert_isOk_iff (cache : EmbeddingCache) (symbols : SymbolTable) (id : String) :
    (∀ vector now, (cache.insert symbols id vector now).isOk = true) ↔
      symbols.contains id = true ∧ cache.dimension = none := by
  constructor
  · intro accepts
    have accepted : ∀ vector : Embedding, symbols.contains id = true ∧
        cache.dimension.getD vector.length = vector.length := by
      intro vector
      cases result : cache.insert symbols id vector 0 with
      | ok next =>
        obtain ⟨known, fits, -⟩ := insert_eq_ok_iff.mp result
        exact ⟨known, fits⟩
      | error failure =>
        have refused := accepts vector 0
        rw [result] at refused
        cases refused
    refine ⟨(accepted []).1, ?_⟩
    cases dimension : cache.dimension with
    | none => rfl
    | some expected =>
      -- One component more than the dimension asks for.
      have fits := (accepted (List.replicate (expected + 1) 0)).2
      rw [dimension, Option.getD_some, List.length_replicate] at fits
      omega
  · rintro ⟨known, dimension⟩ vector now
    rw [insert_eq_ok_iff.mpr ⟨known, by rw [dimension]; rfl, rfl⟩]
    rfl

/-! ## Operations that keep the dimension -/

/-- A cache with the dimension of an earlier one, and without vectors if that had none. -/
structure Keeps (earlier later : EmbeddingCache) : Prop where
  dimension : later.dimension = earlier.dimension
  vacant : earlier.entries = ∅ → later.entries = ∅

/-- A cache keeps what it has. -/
theorem Keeps.refl (cache : EmbeddingCache) : cache.Keeps cache := ⟨rfl, id⟩

/-- What two operations keep, both together keep. -/
theorem Keeps.trans {middle : EmbeddingCache} (first : earlier.Keeps middle)
    (second : middle.Keeps later) : earlier.Keeps later where
  dimension := second.dimension.trans first.dimension
  vacant := second.vacant ∘ first.vacant

/-- A removal keeps the dimension and adds no vector. -/
theorem keeps_remove (cache : EmbeddingCache) (id : String) : cache.Keeps (cache.remove id) where
  dimension := rfl
  vacant := fun vacant => Std.ExtTreeMap.erase_eq_empty_iff.mpr (.inl vacant)

/-- A touch keeps the dimension and adds no vector. -/
theorem keeps_touch (cache : EmbeddingCache) (id : String) (now : Int) :
    cache.Keeps (cache.touch id now) where
  dimension := rfl
  vacant := Std.ExtTreeMap.modify_eq_empty_iff.mpr

/-- A fold of operations that keep the dimension keeps it. -/
theorem keeps_foldl {α : Type} {step : EmbeddingCache → α → EmbeddingCache}
    (keeps : ∀ cache item, Keeps cache (step cache item)) (items : List α)
    (cache : EmbeddingCache) : cache.Keeps (items.foldl step cache) :=
  List.foldlRecOn (motive := cache.Keeps) items step (Keeps.refl cache)
    fun later kept item _ => kept.trans (keeps later item)

/-- A search keeps the dimension and adds no vector. -/
theorem keeps_search (cache : EmbeddingCache) (symbols : SymbolTable) (query : Embedding)
    (floor : Float32) (limit : Nat) (now : Int) :
    cache.Keeps (cache.search symbols query floor limit now).2 := by
  rw [search]
  exact keeps_foldl (fun cache (scored : Scored) => keeps_touch cache scored.entry.symbolId now) _
    cache

/-- Rounds of eviction keep the dimension and add no vector. -/
theorem keeps_enforceFrom (cache : EmbeddingCache) (highWater fuel : Nat) (symbols : SymbolTable) :
    cache.Keeps (MemoryBudget.enforceFrom highWater fuel symbols cache).2.2 := by
  induction fuel generalizing symbols cache with
  | zero => exact Keeps.refl cache
  | succ fuel inductionHypothesis =>
    rw [MemoryBudget.enforceFrom]
    split
    · exact Keeps.refl cache
    · exact (keeps_foldl keeps_remove _ cache).trans (inductionHypothesis _ _)

/-- After an operation that keeps the dimension, it is free exactly if it was before and nothing is
cached. -/
theorem Keeps.dimension_eq_none_iff (keeps : earlier.Keeps later)
    (dimensioned : earlier.Dimensioned) :
    later.dimension = none ↔ later.entries = ∅ ∧ earlier.dimension = none := by
  rw [keeps.dimension]
  exact ⟨fun none => ⟨keeps.vacant (dimensioned none), none⟩, And.right⟩

/-! ## The other operations -/

/-- An accepted vector leaves its own length as the dimension. -/
theorem dimension_of_insert {vector : Embedding}
    (accepted : cache.insert symbols id vector now = .ok later) :
    later.dimension = some vector.length ∧ later.entries ≠ ∅ := by
  obtain ⟨-, -, rfl⟩ := insert_eq_ok_iff.mp accepted
  exact ⟨rfl, Std.ExtTreeMap.insert_ne_empty⟩

/-- A loaded cache is free of a dimension exactly if nothing was loaded. -/
theorem ofStored_dimension_eq_none_iff (symbols : SymbolTable) (stored : List CacheEntry) :
    (ofStored symbols stored).dimension = none ↔ (ofStored symbols stored).entries = ∅ := by
  rw [ofStored]
  refine List.foldlRecOn (motive := fun cache : EmbeddingCache =>
    cache.dimension = none ↔ cache.entries = ∅) stored _ (iff_of_true rfl rfl) ?_
  intro cache agrees entry _
  split
  next accepted =>
    obtain ⟨dimension, occupied⟩ := dimension_of_insert accepted
    simp [dimension, occupied]
  next => exact agrees

/-- A purge frees the dimension exactly if it leaves nothing. -/
theorem purgeOrphans_dimension_eq_none_iff (dimensioned : cache.Dimensioned)
    (symbols : SymbolTable) :
    (cache.purgeOrphans symbols).dimension = none ↔ (cache.purgeOrphans symbols).entries = ∅ := by
  rw [purgeOrphans]
  split
  next => exact iff_of_true rfl rfl
  next occupied =>
    rw [Std.ExtTreeMap.isEmpty_iff] at occupied
    have keeps := keeps_foldl keeps_remove (cache.orphans symbols) cache
    exact iff_of_false
      (fun none => occupied ((keeps.dimension_eq_none_iff dimensioned).mp none).1) occupied

/-- After an operation there is no dimension exactly when there is no vector and the operation
forgets it or there was none before. -/
theorem Dimensioned.apply_iff (dimensioned : cache.Dimensioned) (operation : Operation) :
    (operation.apply cache).dimension = none ↔
      (operation.apply cache).entries = ∅ ∧
        (operation.forgets = true ∨ cache.dimension = none) := by
  cases operation with
  | insert symbols id vector now =>
    rw [Operation.apply]
    split
    next accepted =>
      obtain ⟨dimension, occupied⟩ := dimension_of_insert accepted
      simp [dimension, occupied]
    next =>
      simpa [Operation.forgets] using (Keeps.refl cache).dimension_eq_none_iff dimensioned
  | remove id =>
    simpa [Operation.forgets, Operation.apply] using
      (keeps_remove cache id).dimension_eq_none_iff dimensioned
  | touch id now =>
    simpa [Operation.forgets, Operation.apply] using
      (keeps_touch cache id now).dimension_eq_none_iff dimensioned
  | search symbols query floor limit now =>
    simpa [Operation.forgets, Operation.apply] using
      (keeps_search cache symbols query floor limit now).dimension_eq_none_iff dimensioned
  | purgeOrphans symbols =>
    simpa [Operation.forgets, Operation.apply] using
      purgeOrphans_dimension_eq_none_iff dimensioned symbols
  | clear => exact iff_of_true rfl ⟨rfl, .inl rfl⟩
  | restore symbols stored =>
    simpa [Operation.forgets, Operation.apply] using ofStored_dimension_eq_none_iff symbols stored
  | enforce budget symbols =>
    simpa [Operation.forgets, Operation.apply, MemoryBudget.enforce] using
      (keeps_enforceFrom cache budget.highWater symbols.size symbols).dimension_eq_none_iff
        dimensioned

/-! ## Runs -/

/-- After any operations a cache without a dimension has no vector. -/
theorem dimensioned_afterOperations (operations : List Operation) :
    (afterOperations operations).Dimensioned :=
  List.foldlRecOn (motive := Dimensioned) operations Operation.apply dimensioned_empty
    fun _ dimensioned operation _ none => ((dimensioned.apply_iff operation).mp none).1

/-- A run with one more operation is that operation after the run. -/
theorem afterOperations_concat (operations : List Operation) (operation : Operation) :
    afterOperations (operations ++ [operation]) = operation.apply (afterOperations operations) := by
  rw [afterOperations, List.foldl_append]
  rfl

/-- Whenever a vector was stored in the course of a run, a forgetting operation came later. -/
def Forgotten (operations : List Operation) : Prop :=
  ∀ before after, operations = before ++ after → (afterOperations before).entries ≠ ∅ →
    ∃ operation ∈ after, operation.forgets = true

/-- The dimension is forgotten if nothing is cached and the last operation forgets it or found it
forgotten. -/
theorem forgotten_concat_iff (operations : List Operation) (operation : Operation) :
    Forgotten (operations ++ [operation]) ↔
      (operation.apply (afterOperations operations)).entries = ∅ ∧
        (operation.forgets = true ∨ Forgotten operations) := by
  constructor
  · intro forgotten
    constructor
    · by_contra occupied
      rw [← afterOperations_concat] at occupied
      obtain ⟨later, member, -⟩ := forgotten _ [] (List.append_nil _).symm occupied
      cases member
    · by_cases last : operation.forgets = true
      · exact .inl last
      · refine .inr fun before after run occupied => ?_
        obtain ⟨later, member, forgets⟩ := forgotten before (after ++ [operation])
          (by rw [run, List.append_assoc]) occupied
        rcases List.mem_append.mp member with earlier | final
        · exact ⟨later, earlier, forgets⟩
        · rw [List.mem_singleton.mp final] at forgets
          exact absurd forgets last
  · rintro ⟨vacant, forgotten⟩ before after run occupied
    rcases List.eq_nil_or_concat after with rfl | ⟨middle, last, rfl⟩
    · rw [List.append_nil] at run
      rw [← run, afterOperations_concat] at occupied
      exact absurd vacant occupied
    · rw [List.concat_eq_append] at run ⊢
      rw [← List.append_assoc] at run
      obtain ⟨rfl, same⟩ := List.append_inj' run rfl
      obtain rfl : operation = last := List.head_eq_of_cons_eq same
      rcases forgotten with forgets | earlier
      · exact ⟨operation, List.mem_append_right _ (List.mem_singleton_self _), forgets⟩
      · obtain ⟨later, member, forgets⟩ := earlier before middle rfl occupied
        exact ⟨later, List.mem_append_left _ member, forgets⟩

/-- After a run there is no dimension exactly when a forgetting operation came after the last
vector. -/
theorem dimension_eq_none_iff_forgotten (operations : List Operation) :
    (afterOperations operations).dimension = none ↔ Forgotten operations := by
  induction operations using List.reverseRecOn with
  | nil =>
    refine iff_of_true rfl fun before after run occupied => ?_
    rw [(List.append_eq_nil_iff.mp run.symm).1] at occupied
    exact absurd rfl occupied
  | append_singleton operations operation inductionHypothesis =>
    rw [forgotten_concat_iff, ← inductionHypothesis, afterOperations_concat]
    exact (dimensioned_afterOperations operations).apply_iff operation

/-- A cache takes vectors of any length again exactly when a forgetting operation was run since a
vector was stored last; and a vector that is refused leaves the cache as it is. -/
theorem afterOperations_accepts_iff (operations : List Operation) :
    ((afterOperations operations).dimension = none ↔ Forgotten operations) ∧
      (∀ symbols id,
        (∀ vector now, ((afterOperations operations).insert symbols id vector now).isOk = true) ↔
          symbols.contains id = true ∧ Forgotten operations) ∧
      ∀ symbols id vector now,
        (store symbols id vector now).run (afterOperations operations) =
          match (afterOperations operations).insert symbols id vector now with
          | .ok next => .ok () next
          | .error failure => .error failure (afterOperations operations) := by
  have forgotten := dimension_eq_none_iff_forgotten operations
  refine ⟨forgotten, fun symbols id => ?_, run_store (afterOperations operations)⟩
  rw [← forgotten]
  exact insert_isOk_iff (afterOperations operations) symbols id

/-- The only vector is removed, and a longer one for the same symbol is refused. -/
theorem removedVector_leaves_dimension :
    let symbols := SymbolTable.ofSymbols [SymbolTable.oneLiner "a.ts" "f" 1] 1
    let cache := afterOperations [.insert symbols "a.ts:f:1" [1, 0] 2, .remove "a.ts:f:1"]
    cache.entries = ∅ ∧ cache.dimension = some 2 ∧ symbols.contains "a.ts:f:1" = true ∧
      cache.insert symbols "a.ts:f:1" [1, 0, 0] 3 =
        .error (.embedding "vector for a.ts:f:1 has dimension 3, expected 2") := by
  intro symbols cache
  have dimension : cache.dimension = some 2 := by decide +kernel
  have known : symbols.contains "a.ts:f:1" = true := by decide +kernel
  refine ⟨Std.ExtTreeMap.isEmpty_iff.mp (by decide +kernel), dimension, known, ?_⟩
  rw [insert, known, dimension]
  rfl

end SourceAtlas.EmbeddingCache
