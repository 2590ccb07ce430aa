import Mathlib.Algebra.Order.Floor.Div
import Mathlib.GroupTheory.GroupAction.Ring
import SourceAtlas.Proofs.Embedding.Eviction
import SourceAtlas.Proofs.Symbol.Edits

/-!
# Evictions take the oldest symbols

Every round of an eviction lists the symbols anew by their age, but what left
does not make the others younger: the list of a round is the rest of the list
of the round before. So all rounds together take the first identifiers of one
order, `byAge` of the contents before the eviction, and stop at the first round
after which the rest fits or nothing is left.
-/

namespace SourceAtlas

/-- The listed symbols have the ids of the table, in order. -/
theorem SymbolTable.Identified.ids_toList {table : SymbolTable} (identified : table.Identified) :
    table.toList.map Symbol.id = table.ids := FileMap.map_values_eq_keys identified

namespace MemoryBudget

variable {symbols : SymbolTable} {cache : EmbeddingCache} {id : String}
  {contents : SymbolTable × EmbeddingCache} {order oldest younger : List String}

/-- Symbols and vectors without those of the given identifiers. -/
def without (contents : SymbolTable × EmbeddingCache) (ids : List String) :
    SymbolTable × EmbeddingCache :=
  (ids.foldl SymbolTable.removeSymbol contents.1, ids.foldl EmbeddingCache.remove contents.2)

/-- Nothing is out when nothing is taken. -/
@[simp]
theorem without_nil (contents : SymbolTable × EmbeddingCache) : without contents [] = contents := rfl

/-- Taking two lists is taking one after the other. -/
theorem without_append (contents : SymbolTable × EmbeddingCache) (first second : List String) :
    without contents (first ++ second) = without (without contents first) second := by
  rw [without, without, without, List.foldl_append, List.foldl_append]

/-- The taken symbols are gone and every other one is left. -/
theorem symbol_without (contents : SymbolTable × EmbeddingCache) (ids : List String)
    (id : String) :
    (without contents ids).1.get? id = if id ∈ ids then none else contents.1.get? id :=
  SymbolTable.symbols_foldl_removeSymbol ids contents.1 id

/-- The entries of the taken symbols are gone and every other one is left. -/
theorem entry_without (contents : SymbolTable × EmbeddingCache) (ids : List String)
    (id : String) :
    (without contents ids).2.get? id = if id ∈ ids then none else contents.2.get? id :=
  EmbeddingCache.entries_foldl_remove ids contents.2 id

/-! ## The order of age -/

/-- The first identifier leaves before the second one: its symbol was used less recently, or at the
same time and its identifier is the smaller one. -/
def LeavesBefore (contents : SymbolTable × EmbeddingCache) (first second : String) : Prop :=
  ∃ older ∈ contents.1.get? first, ∃ newer ∈ contents.1.get? second,
    recency contents.2 older < recency contents.2 newer ∨
      recency contents.2 older = recency contents.2 newer ∧ first < second

instance (contents : SymbolTable × EmbeddingCache) (first second : String) :
    Decidable (LeavesBefore contents first second) :=
  inferInstanceAs (Decidable (∃ older ∈ contents.1.get? first, ∃ newer ∈ contents.1.get? second, _))

/-- The identifiers of all symbols, each once, in the order in which they leave. -/
structure AgeOrder (contents : SymbolTable × EmbeddingCache) (order : List String) : Prop where
  lists : order.Perm contents.1.ids
  ordered : order.Pairwise (LeavesBefore contents)

/-- No two symbols leave before one another. -/
theorem LeavesBefore.asymm {first second : String}
    (before : LeavesBefore contents first second) : ¬LeavesBefore contents second first := by
  obtain ⟨older, foundOlder, newer, foundNewer, before⟩ := before
  rintro ⟨older', foundOlder', newer', foundNewer', after⟩
  obtain rfl := Option.some.inj (foundOlder.symm.trans foundNewer')
  obtain rfl := Option.some.inj (foundNewer.symm.trans foundOlder')
  rcases before with earlier | ⟨together, smaller⟩
  · omega
  · rcases after with later | ⟨-, greater⟩
    · omega
    · exact absurd greater (String.lt_asymm smaller)

/-- There is one order of age. -/
theorem AgeOrder.unique {other : List String} (one : AgeOrder contents order)
    (two : AgeOrder contents other) : order = other :=
  (one.lists.trans two.lists.symm).eq_of_pairwise
    (fun _ _ _ _ before after => absurd after before.asymm) one.ordered two.ordered

/-- An order by age lists no symbol twice. -/
theorem AgeOrder.nodup (aged : AgeOrder contents order) : order.Nodup :=
  aged.lists.nodup_iff.mpr Std.ExtTreeMap.nodup_keys

/-- An order by age lists all symbols. -/
theorem AgeOrder.length_eq (aged : AgeOrder contents order) :
    order.length = contents.1.size := by
  rw [aged.lists.length_eq, SymbolTable.ids, Std.ExtTreeMap.length_keys]
  rfl

/-- Older entries come first, and ids decide between equal times. -/
theorem agedBefore_iff {first second : Int × String} :
    agedBefore first second = true ↔
      first.1 < second.1 ∨ first.1 = second.1 ∧ (first.2 < second.2 ∨ first.2 = second.2) := by
  have smaller : compare first.2 second.2 = .lt ↔ first.2 < second.2 := compareOfLessAndEq_eq_lt
  rw [agedBefore, Ordering.isLE_then_iff_or, Int.compare_eq_lt, Std.compare_eq_iff_eq,
    Ordering.isLE_iff_eq_lt_or_eq_eq, smaller, Std.compare_eq_iff_eq]

/-- The order by age is transitive. -/
theorem agedBefore_trans (first second third : Int × String)
    (before : agedBefore first second = true) (after : agedBefore second third = true) :
    agedBefore first third = true := by
  rw [agedBefore_iff] at before after ⊢
  rcases before with earlier | ⟨together, before⟩
  · left
    rcases after with later | ⟨same, -⟩ <;> omega
  · rcases after with later | ⟨same, after⟩
    · left
      omega
    · refine .inr ⟨together.trans same, ?_⟩
      rcases before with smaller | equal
      · rcases after with greater | equal
        · exact .inl (String.lt_trans smaller greater)
        · exact .inl (equal ▸ smaller)
      · exact equal ▸ after

/-- Any two entries are ordered by age. -/
theorem agedBefore_total (first second : Int × String) :
    (agedBefore first second || agedBefore second first) = true := by
  rw [Bool.or_eq_true, agedBefore_iff, agedBefore_iff]
  rcases lt_trichotomy first.1 second.1 with earlier | together | later
  · exact .inl (.inl earlier)
  · by_cases smaller : first.2 < second.2
    · exact .inl (.inr ⟨together, .inl smaller⟩)
    · by_cases greater : second.2 < first.2
      · exact .inr (.inr ⟨together.symm, .inl greater⟩)
      · have equal := String.le_antisymm (String.not_lt.mp greater) (String.not_lt.mp smaller)
        exact .inl (.inr ⟨together, .inr equal⟩)
  · exact .inr (.inl later)

/-- A budget lists the identifiers in the order of age. -/
theorem ageOrder_byAge (identified : symbols.Identified) (cache : EmbeddingCache) :
    AgeOrder (symbols, cache) (byAge symbols cache) := by
  have sorted := List.mergeSort_perm
    (symbols.toList.map fun symbol => (recency cache symbol, symbol.id)) agedBefore
  have lists : (byAge symbols cache).Perm symbols.ids := by
    refine (sorted.map Prod.snd).trans (List.Perm.of_eq ?_)
    rw [List.map_map, ← identified.ids_toList]
    rfl
  refine ⟨lists, ?_⟩
  have aged := List.pairwise_mergeSort agedBefore_trans agedBefore_total
    (symbols.toList.map fun symbol => (recency cache symbol, symbol.id))
  have distinct : (byAge symbols cache).Nodup := lists.nodup_iff.mpr Std.ExtTreeMap.nodup_keys
  rw [byAge, List.Nodup, List.pairwise_map] at distinct
  rw [byAge, List.pairwise_map]
  have listed : ∀ entry ∈ (symbols.toList.map fun symbol =>
      (recency cache symbol, symbol.id)).mergeSort agedBefore,
        ∃ symbol ∈ symbols.get? entry.2, recency cache symbol = entry.1 := by
    intro entry member
    obtain ⟨symbol, stored, rfl⟩ := List.mem_map.mp (sorted.mem_iff.mp member)
    obtain ⟨id, found⟩ := FileMap.mem_values_iff.mp stored
    rw [identified id symbol found]
    exact ⟨symbol, found, rfl⟩
  refine (aged.and distinct).imp_of_mem fun {first second} inside inside' apart => ?_
  obtain ⟨older, foundOlder, firstAge⟩ := listed first inside
  obtain ⟨newer, foundNewer, secondAge⟩ := listed second inside'
  refine ⟨older, foundOlder, newer, foundNewer, ?_⟩
  rw [firstAge, secondAge]
  rcases agedBefore_iff.mp apart.1 with earlier | ⟨together, smaller | equal⟩
  · exact .inl earlier
  · exact .inr ⟨together, smaller⟩
  · exact absurd equal apart.2

/-- The ids of a table are those it looks up a symbol for. -/
theorem mem_ids_iff : id ∈ symbols.ids ↔ ∃ symbol, symbols.get? id = some symbol := by
  rw [SymbolTable.ids, Std.ExtTreeMap.mem_keys, Std.ExtTreeMap.mem_iff_isSome_getElem?,
    Option.isSome_iff_exists]
  rfl

/-- When the oldest symbols have left, the others leave in the order in which they stood. -/
theorem AgeOrder.without (aged : AgeOrder contents (oldest ++ younger))
    (identified : contents.1.Identified) :
    AgeOrder (MemoryBudget.without contents oldest) younger := by
  obtain ⟨-, nodup, apart⟩ := List.nodup_append.mp aged.nodup
  have outside : ∀ id ∈ younger, id ∉ oldest := fun id member left => apart id left id member rfl
  constructor
  · have kept (id : String) : id ∈ younger ↔ id ∈ (MemoryBudget.without contents oldest).1.ids := by
      have listed := aged.lists.mem_iff (a := id)
      rw [mem_ids_iff, List.mem_append] at listed
      rw [mem_ids_iff, symbol_without]
      by_cases left : id ∈ oldest
      · simpa [left] using fun member => outside id member left
      · simpa [left] using listed
    exact (List.perm_ext_iff_of_nodup nodup Std.ExtTreeMap.nodup_keys).mpr kept
  · have sameAge : ∀ id ∈ younger, ∀ symbol ∈ contents.1.get? id,
        recency (MemoryBudget.without contents oldest).2 symbol = recency contents.2 symbol := by
      intro id member symbol found
      have named : symbol.id = id := identified id symbol found
      rw [recency, recency, entry_without, named, if_neg (outside id member)]
    refine (List.pairwise_append.mp aged.ordered).2.1.imp_of_mem ?_
    rintro first second inside inside' ⟨older, foundOlder, newer, foundNewer, before⟩
    refine ⟨older, ?_, newer, ?_, ?_⟩
    · rwa [symbol_without, if_neg (outside first inside)]
    · rwa [symbol_without, if_neg (outside second inside')]
    · rwa [sameAge first inside older foundOlder, sameAge second inside' newer foundNewer]

/-! ## Round after round -/

/-- How many of `count` symbols are out after so many rounds, each of which takes a fifth of those
that are left, rounded up. -/
def outAfter (count : Nat) : Nat → Nat
  | 0 => 0
  | rounds + 1 => outAfter count rounds + (count - outAfter count rounds) ⌈/⌉ 5

/-- A round takes a fifth of the symbols, rounded up. -/
theorem roundSize_eq (count : Nat) : roundSize count = count ⌈/⌉ 5 := by
  rw [roundSize, Nat.ceilDiv_eq_add_pred_div]
  rfl

/-- The first round comes before the rounds of the rest. -/
theorem outAfter_succ (count rounds : Nat) :
    outAfter count (rounds + 1) = roundSize count + outAfter (count - roundSize count) rounds := by
  induction rounds with
  | zero => simp [outAfter, roundSize_eq]
  | succ rounds inductionHypothesis =>
    rw [outAfter, inductionHypothesis, outAfter, Nat.sub_add_eq]
    omega

/-- What is out after one more round is the first round and the rounds on the rest. -/
theorem take_outAfter_succ (order : List String) (count rounds : Nat) :
    order.take (outAfter count (rounds + 1)) =
      order.take (roundSize count) ++
        (order.drop (roundSize count)).take (outAfter (count - roundSize count) rounds) := by
  rw [outAfter_succ, List.take_add]

/-- What is left after the first of all rounds. -/
def nextContents (contents : SymbolTable × EmbeddingCache) : SymbolTable × EmbeddingCache :=
  without contents ((byAge contents.1 contents.2).take (roundSize contents.1.size))

/-- Where the budget holds nothing is evicted. -/
theorem enforceFrom_of_holds {budget : MemoryBudget} (holds : budget.Holds contents) (fuel : Nat) :
    enforceFrom budget.highWater fuel contents.1 contents.2 = ([], contents) := by
  cases fuel with
  | zero => rfl
  | succ fuel =>
    rw [enforceFrom, if_pos]
    simpa [Holds] using holds

/-- Where the budget is exceeded one round is evicted, and then the rest is looked at again. -/
theorem enforceFrom_succ {budget : MemoryBudget} (exceeds : ¬budget.Holds contents) (fuel : Nat) :
    enforceFrom budget.highWater (fuel + 1) contents.1 contents.2 =
      ((byAge contents.1 contents.2).take (roundSize contents.1.size) ++
          (enforceFrom budget.highWater fuel (nextContents contents).1 (nextContents contents).2).1,
        (enforceFrom budget.highWater fuel (nextContents contents).1
          (nextContents contents).2).2) := by
  rw [enforceFrom, if_neg]
  · rfl
  · simpa [Holds] using exceeds

/-- A round leaves every symbol under its own id. -/
theorem identified_nextContents (identified : contents.1.Identified) :
    (nextContents contents).1.Identified :=
  identified.foldl_removeSymbol _

/-- The next round lists what the first one left standing, in the same order. -/
theorem byAge_nextContents (identified : contents.1.Identified) :
    byAge (nextContents contents).1 (nextContents contents).2 =
        (byAge contents.1 contents.2).drop (roundSize contents.1.size) ∧
      (nextContents contents).1.size = contents.1.size - roundSize contents.1.size := by
  have aged := ageOrder_byAge identified contents.2
  have cut := List.take_append_drop (roundSize contents.1.size) (byAge contents.1 contents.2)
  have rest := (cut.symm ▸ aged).without identified
  constructor
  · exact (ageOrder_byAge (identified_nextContents identified) _).unique rest
  · have size := rest.length_eq
    rw [List.length_drop, aged.length_eq] at size
    exact size.symm

instance (budget : MemoryBudget) (contents : SymbolTable × EmbeddingCache) :
    Decidable (budget.Holds contents) :=
  inferInstanceAs (Decidable (_ ∨ _))

/-- An eviction that takes symbols in this order may stop after so many rounds, and after no
fewer. -/
structure StopsAfter (budget : MemoryBudget) (contents : SymbolTable × EmbeddingCache)
    (order : List String) (rounds : Nat) : Prop where
  stops : budget.Holds (without contents (order.take (outAfter contents.1.size rounds)))
  goesOn : ∀ earlier < rounds,
    ¬budget.Holds (without contents (order.take (outAfter contents.1.size earlier)))

/-- Where the budget holds, the eviction stops before its first round. -/
theorem stopsAfter_zero {budget : MemoryBudget} (holds : budget.Holds contents)
    (order : List String) : budget.StopsAfter contents order 0 where
  stops := holds
  goesOn := by simp

/-- There is one number of rounds. -/
theorem StopsAfter.unique {budget : MemoryBudget} {rounds others : Nat}
    (one : budget.StopsAfter contents order rounds)
    (two : budget.StopsAfter contents order others) : rounds = others := by
  rcases lt_trichotomy rounds others with fewer | same | more
  · exact absurd one.stops (two.goesOn rounds fewer)
  · exact same
  · exact absurd two.stops (one.goesOn others more)

/-- The whole needs one round more than what a round leaves of it. -/
theorem StopsAfter.next {budget : MemoryBudget} {rounds : Nat}
    (identified : contents.1.Identified) (exceeds : ¬budget.Holds contents)
    (stopsAfter : budget.StopsAfter (nextContents contents)
      (byAge (nextContents contents).1 (nextContents contents).2) rounds) :
    budget.StopsAfter contents (byAge contents.1 contents.2) (rounds + 1) := by
  obtain ⟨listed, size⟩ := byAge_nextContents identified
  obtain ⟨stops, goesOn⟩ := stopsAfter
  rw [listed, size] at stops goesOn
  constructor
  · rw [take_outAfter_succ, without_append]
    exact stops
  · intro earlier before
    cases earlier with
    | zero => exact exceeds
    | succ earlier =>
      rw [take_outAfter_succ, without_append]
      exact goesOn earlier (Nat.lt_of_succ_lt_succ before)

/-- The rounds of an eviction take the first identifiers of the order of age, until the rest fits or
nothing is left. -/
theorem enforceFrom_eq {fuel : Nat} (budget : MemoryBudget) (identified : contents.1.Identified)
    (enough : contents.1.size ≤ fuel) :
    ∃ rounds ≤ contents.1.size, budget.StopsAfter contents (byAge contents.1 contents.2) rounds ∧
      enforceFrom budget.highWater fuel contents.1 contents.2 =
        ((byAge contents.1 contents.2).take (outAfter contents.1.size rounds),
          without contents
            ((byAge contents.1 contents.2).take (outAfter contents.1.size rounds))) := by
  induction fuel generalizing contents with
  | zero =>
    have holds : budget.Holds contents := .inr (Nat.le_zero.mp enough)
    exact ⟨0, Nat.zero_le _, stopsAfter_zero holds _, enforceFrom_of_holds holds 0⟩
  | succ fuel inductionHypothesis =>
    by_cases holds : budget.Holds contents
    · exact ⟨0, Nat.zero_le _, stopsAfter_zero holds _, enforceFrom_of_holds holds (fuel + 1)⟩
    · have occupied : contents.1.size ≠ 0 := fun vacant => holds (.inr vacant)
      have fewer : (nextContents contents).1.size < contents.1.size :=
        size_round_lt identified occupied contents.2
      obtain ⟨rounds, few, stopsAfter, later⟩ :=
        inductionHypothesis (identified_nextContents identified) (by omega)
      obtain ⟨listed, size⟩ := byAge_nextContents identified
      refine ⟨rounds + 1, by omega, stopsAfter.next identified holds, ?_⟩
      rw [enforceFrom_succ holds, later, listed, size, take_outAfter_succ, without_append]
      rfl

/-! ## What an eviction does -/

/-- An enforcement takes the front of the order by age, and leaves the rest as it was. -/
theorem enforce_evicts (budget : MemoryBudget) (identified : symbols.Identified)
    (cache : EmbeddingCache) :
    ∃ rounds ≤ symbols.size, budget.StopsAfter (symbols, cache) (byAge symbols cache) rounds ∧
      (budget.enforce symbols cache).1.evicted =
        (byAge symbols cache).take (outAfter symbols.size rounds) ∧
      (budget.enforce symbols cache).2 =
        without (symbols, cache) (budget.enforce symbols cache).1.evicted := by
  obtain ⟨rounds, few, stopsAfter, rounded⟩ :=
    @enforceFrom_eq (symbols, cache) symbols.size budget identified (Nat.le_refl _)
  refine ⟨rounds, few, stopsAfter, congrArg Prod.fst rounded, ?_⟩
  rw [show (budget.enforce symbols cache).1.evicted = _ from congrArg Prod.fst rounded]
  exact congrArg Prod.snd rounded

/-- Nothing is evicted exactly from what fits already. -/
theorem evicted_eq_nil_iff (budget : MemoryBudget) (identified : symbols.Identified)
    (cache : EmbeddingCache) :
    (budget.enforce symbols cache).1.evicted = [] ↔ budget.Holds (symbols, cache) := by
  constructor
  · intro none
    obtain ⟨-, -, -, -, kept⟩ := enforce_evicts budget identified cache
    have holds : budget.Holds (budget.enforce symbols cache).2 := budget.holds_enforce identified
    rwa [kept, none, without_nil] at holds
  · intro holds
    exact congrArg Prod.fst (enforceFrom_of_holds holds symbols.size)

/-- Every symbol stays or is evicted. -/
theorem size_enforce (budget : MemoryBudget) (identified : symbols.Identified)
    (cache : EmbeddingCache) :
    (budget.enforce symbols cache).2.1.size + (budget.enforce symbols cache).1.evicted.length =
      symbols.size := by
  obtain ⟨rounds, -, -, evicted, kept⟩ := enforce_evicts budget identified cache
  have aged := ageOrder_byAge identified cache
  have cut := List.take_append_drop (outAfter symbols.size rounds) (byAge symbols cache)
  have rest := ((cut.symm ▸ aged).without identified).length_eq
  rw [kept, evicted, ← rest, ← List.length_append, List.perm_append_comm.length_eq, cut,
    aged.length_eq]

end MemoryBudget

end SourceAtlas
