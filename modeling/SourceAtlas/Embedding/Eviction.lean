import SourceAtlas.Embedding.Cache
import SourceAtlas.Number.Word

/-!
# Eviction under a memory budget

When symbols and vectors together take more than the high water mark, the
least recently used fifth of the symbols leaves, with their vectors, until the
rest fits. A symbol without a vector counts as used when it was stored.
-/

namespace SourceAtlas

/-- A memory budget in bytes. -/
structure MemoryBudget where
  bytes : Nat
  deriving DecidableEq, Repr

/-- What an eviction did. -/
structure EvictionReport where
  /-- Identifiers in the order they left. -/
  evicted : List String
  bytesBefore : Nat
  bytesAfter : Nat
  deriving DecidableEq, Repr

namespace MemoryBudget

/-- The largest budget a machine word holds. -/
def largest : Nat := Word64.count - 1

/-- A budget in units of 1024 * 1024 bytes. -/
def ofMegabytes (megabytes : Nat) : MemoryBudget := ⟨min (megabytes * (1024 * 1024)) largest⟩

/-- Four fifths of the budget. -/
def highWater (budget : MemoryBudget) : Nat :=
  (budget.bytes.toUInt64.toFloat * 0.8).toUInt64.toNat

/-- When a symbol was last used. -/
def recency (cache : EmbeddingCache) (symbol : Symbol) : Int :=
  match cache.get? symbol.id with
  | some entry => entry.lastAccess
  | none => symbol.indexedAt

/-- Whether one pair of time and identifier comes before another. -/
def agedBefore (a b : Int × String) : Bool :=
  ((compare a.1 b.1).then (compare a.2 b.2)).isLE

/-- The identifiers from least to most recently used. -/
def byAge (symbols : SymbolTable) (cache : EmbeddingCache) : List String :=
  ((symbols.toList.map fun symbol => (recency cache symbol, symbol.id)).mergeSort agedBefore).map
    Prod.snd

/-- A fifth of the symbols, rounded up. -/
def roundSize (count : Nat) : Nat := (count + 4) / 5

/-- Evict round after round. The fuel bounds the rounds; the number of symbols is enough, since
every round removes one at least. -/
def enforceFrom (highWater : Nat) :
    Nat → SymbolTable → EmbeddingCache → List String × SymbolTable × EmbeddingCache
  | 0, symbols, cache => ([], symbols, cache)
  | fuel + 1, symbols, cache =>
    if cache.estimatedBytes symbols ≤ highWater || symbols.size = 0 then ([], symbols, cache)
    else
      let leaving := (byAge symbols cache).take (roundSize symbols.size)
      let symbols := leaving.foldl SymbolTable.removeSymbol symbols
      let cache := leaving.foldl EmbeddingCache.remove cache
      let (later, symbols, cache) := enforceFrom highWater fuel symbols cache
      (leaving ++ later, symbols, cache)

/-- Bring symbols and vectors under the high water mark. -/
def enforce (budget : MemoryBudget) (symbols : SymbolTable) (cache : EmbeddingCache) :
    EvictionReport × SymbolTable × EmbeddingCache :=
  let (evicted, kept, cacheKept) := enforceFrom budget.highWater symbols.size symbols cache
  ({ evicted
     bytesBefore := cache.estimatedBytes symbols
     bytesAfter := cacheKept.estimatedBytes kept }, kept, cacheKept)

end MemoryBudget

end SourceAtlas
