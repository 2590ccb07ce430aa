import SourceAtlas.Embedding.Vector
import SourceAtlas.Error
import SourceAtlas.Number.Total
import SourceAtlas.Symbol.Search

/-!
# The embedding cache

Vectors by symbol identifier, all of one dimension, each with the time of its
last access. A vector is accepted only for a symbol of the table it is paired
with.
-/

namespace SourceAtlas

/-- A stored vector. -/
structure CacheEntry where
  symbolId : String
  vector : Embedding
  lastAccess : Int

/-- A later access; the time never goes back. -/
def CacheEntry.touch (entry : CacheEntry) (now : Int) : CacheEntry :=
  { entry with lastAccess := max entry.lastAccess now }

/-- The vectors of an index. -/
structure EmbeddingCache where
  entries : FileMap CacheEntry := ∅
  /-- Set by the first vector. -/
  dimension : Option Nat := none

/-- A symbol found by its vector. -/
structure SemanticHit where
  symbol : Symbol
  similarity : Float32

namespace EmbeddingCache

/-- The cache without vectors. -/
def empty : EmbeddingCache := {}

/-- Store a vector for a symbol of the table. -/
def insert (cache : EmbeddingCache) (symbols : SymbolTable) (id : String) (vector : Embedding)
    (now : Int) : Except IndexError EmbeddingCache :=
  if !symbols.contains id then .error (.orphanEmbedding id)
  else
    let expected := cache.dimension.getD vector.length
    if expected ≠ vector.length then
      .error (.embedding ("vector for " ++ id ++ " has dimension " ++ toString vector.length ++
        ", expected " ++ toString expected))
    else
      .ok
        { entries := cache.entries.insert id { symbolId := id, vector, lastAccess := now }
          dimension := some expected }

/-- The entry of a symbol. -/
def get? (cache : EmbeddingCache) (id : String) : Option CacheEntry := cache.entries[id]?

/-- Whether a symbol has a vector. -/
def contains (cache : EmbeddingCache) (id : String) : Bool := cache.entries.contains id

/-- Drop the vector of a symbol. The dimension stays. -/
def remove (cache : EmbeddingCache) (id : String) : EmbeddingCache :=
  { cache with entries := cache.entries.erase id }

/-- Note an access. -/
def touch (cache : EmbeddingCache) (id : String) (now : Int) : EmbeddingCache :=
  { cache with entries := cache.entries.modify id fun entry => entry.touch now }

/-- The number of vectors. -/
def size (cache : EmbeddingCache) : Nat := cache.entries.size

/-- The entries in the order of the identifiers. -/
def toList (cache : EmbeddingCache) : List CacheEntry := cache.entries.values

/-- The memory charged for symbols and vectors together. -/
def estimatedBytes (cache : EmbeddingCache) (symbols : SymbolTable) : Nat :=
  total (symbols.toList.map Symbol.estimatedBytes) + cache.size * cache.dimension.getD 0 * 4

/-- An entry with its similarity to a query. -/
structure Scored where
  entry : CacheEntry
  similarity : Float32

/-- Higher similarities first, then by identifier. -/
def Scored.before (a b : Scored) : Bool :=
  ((compare (floatRank b.similarity) (floatRank a.similarity)).then
    (compare a.entry.symbolId b.entry.symbolId)).isLE

/-- The entries at least as similar as `floor`, best first. -/
def scored (cache : EmbeddingCache) (query : Embedding) (floor : Float32) : List Scored :=
  let found := cache.toList.filterMap fun entry =>
    match Embedding.cosine? query entry.vector with
    | some similarity => if similarity ≥ floor then some { entry, similarity } else none
    | none => none
  found.mergeSort Scored.before

/-- The hits of a query: the best entries that have a symbol. -/
def hits (cache : EmbeddingCache) (symbols : SymbolTable) (query : Embedding) (floor : Float32)
    (limit : Nat) : List SemanticHit :=
  ((cache.scored query floor).filterMap fun scored =>
    (symbols.get? scored.entry.symbolId).map fun symbol =>
      { symbol, similarity := scored.similarity }).take limit

/-- Search and note the access to every entry returned. -/
def search (cache : EmbeddingCache) (symbols : SymbolTable) (query : Embedding) (floor : Float32)
    (limit : Nat) (now : Int) : List SemanticHit × EmbeddingCache :=
  let kept := ((cache.scored query floor).filter fun scored =>
    symbols.contains scored.entry.symbolId).take limit
  (cache.hits symbols query floor limit,
    kept.foldl (fun cache scored => cache.touch scored.entry.symbolId now) cache)

/-- The identifiers without a symbol, in order. -/
def orphans (cache : EmbeddingCache) (symbols : SymbolTable) : List String :=
  cache.entries.keys.filter fun id => !symbols.contains id

/-- Drop the vectors without a symbol; an emptied cache forgets its dimension. -/
def purgeOrphans (cache : EmbeddingCache) (symbols : SymbolTable) : EmbeddingCache :=
  let kept := (cache.orphans symbols).foldl remove cache
  if kept.entries.isEmpty then empty else kept

/-- Put stored entries back, dropping those that are refused. -/
def ofStored (symbols : SymbolTable) (stored : List CacheEntry) : EmbeddingCache :=
  stored.foldl (fun cache entry =>
    match cache.insert symbols entry.symbolId entry.vector entry.lastAccess with
    | .ok next => next
    | .error _ => cache) empty

end EmbeddingCache

end SourceAtlas
