import SourceAtlas.Proofs.Embedding.Operations
import SourceAtlas.Proofs.Ranking

/-!
# What a search by vector finds and touches

A search ranks the entries that have a symbol and are similar enough
(`Finds`). Two entries never rank alike, since their identifiers differ, so the
ranking is one list whatever order the entries are visited in. The answer shows
the beginning of that list, and the access is noted for the entries shown and
for no others (`TakesBest`).
-/

namespace SourceAtlas

/-- A similarity is a finite number. -/
theorem Embedding.isFinite_of_cosine? {a b : Embedding} {similarity : Float32}
    (defined : cosine? a b = some similarity) : similarity.isFinite = true := by
  simp only [cosine?] at defined
  split at defined
  · cases defined
  · split at defined
    · cases defined
    · split at defined
      next finite =>
        cases defined
        exact finite
      next => cases defined

namespace EmbeddingCache

variable {cache : EmbeddingCache} {symbols : SymbolTable} {query : Embedding} {floor : Float32}
  {entry : CacheEntry} {scored first second : Scored} {limit : Nat} {now : Int}

/-! ## The ranking -/

/-- Similarities from high to low, then identifiers. -/
def Scored.rank (first second : Scored) : Ordering :=
  (compare (floatRank second.similarity) (floatRank first.similarity)).then
    (compare first.entry.symbolId second.entry.symbolId)

instance : Std.TransCmp Scored.rank :=
  inferInstanceAs (Std.TransCmp (compareLex
    (fun first second => compareOn (fun scored : Scored => floatRank scored.similarity) second first)
    (compareOn fun scored : Scored => scored.entry.symbolId)))

/-- An entry with its similarity, when that is defined and reaches the floor. -/
def score? (query : Embedding) (floor : Float32) (entry : CacheEntry) : Option Scored :=
  match Embedding.cosine? query entry.vector with
  | some similarity => if similarity ≥ floor then some { entry, similarity } else none
  | none => none

/-- An entry is scored exactly if its similarity exists and reaches the floor. -/
theorem score?_eq_some_iff :
    score? query floor entry = some scored ↔
      scored.entry = entry ∧
        Embedding.cosine? query scored.entry.vector = some scored.similarity ∧
        scored.similarity ≥ floor := by
  obtain ⟨other, similarity⟩ := scored
  rw [score?]
  constructor
  · intro found
    split at found
    next value defined =>
      split at found
      next reaches =>
        cases found
        exact ⟨rfl, defined, reaches⟩
      next => cases found
    next => cases found
  · rintro ⟨rfl, defined, reaches⟩
    simp only [defined, if_pos reaches]

/-- The scored entries, best first, when they are visited in the given order. -/
def scoredIn (order : List CacheEntry) (query : Embedding) (floor : Float32) : List Scored :=
  (order.filterMap (score? query floor)).mergeSort Scored.before

/-- The listed entries are those that their own ids look up. -/
theorem mem_toList_iff (identified : cache.Identified) :
    entry ∈ cache.toList ↔ cache.get? entry.symbolId = some entry :=
  FileMap.mem_values_iff_of_keyed identified

/-- The entry is stored, and its similarity to the query is defined and reaches the floor. -/
structure Scores (cache : EmbeddingCache) (query : Embedding) (floor : Float32)
    (scored : Scored) : Prop where
  stored : cache.get? scored.entry.symbolId = some scored.entry
  similar : Embedding.cosine? query scored.entry.vector = some scored.similarity
  reaches : scored.similarity ≥ floor

/-- Entries of the cache that rank alike are the same one. -/
theorem Scores.eq_of_rank (one : cache.Scores query floor first)
    (two : cache.Scores query floor second) (alike : Scored.rank first second = .eq) :
    first = second := by
  have sameId : first.entry.symbolId = second.entry.symbolId :=
    Std.LawfulEqCmp.eq_of_compare (Ordering.then_eq_eq.mp alike).2
  have sameEntry : first.entry = second.entry := by
    have stored := one.stored
    rw [sameId, two.stored] at stored
    exact (Option.some.inj stored).symm
  have sameSimilarity : first.similarity = second.similarity := by
    have similar := one.similar
    rw [sameEntry, two.similar] at similar
    exact (Option.some.inj similar).symm
  cases first
  cases second
  cases sameEntry
  cases sameSimilarity
  rfl

/-- In whatever order the entries are visited, they come out in one order. -/
theorem ranking_scoredIn (identified : cache.Identified) {order : List CacheEntry}
    (visits : order.Perm cache.toList) (query : Embedding) (floor : Float32) :
    Ranking Scored.rank (cache.Scores query floor) (scoredIn order query floor) := by
  have found : ∀ scored, scored ∈ order.filterMap (score? query floor) ↔
      cache.Scores query floor scored := by
    intro scored
    rw [List.mem_filterMap]
    constructor
    · rintro ⟨entry, member, scores⟩
      obtain ⟨rfl, similar, reaches⟩ := score?_eq_some_iff.mp scores
      exact ⟨(mem_toList_iff identified).mp (visits.mem_iff.mp member), similar, reaches⟩
    · rintro ⟨stored, similar, reaches⟩
      exact ⟨scored.entry, visits.mem_iff.mpr ((mem_toList_iff identified).mpr stored),
        score?_eq_some_iff.mpr ⟨rfl, similar, reaches⟩⟩
  have nodup : (order.filterMap (score? query floor)).Nodup := by
    refine List.Nodup.filterMap (fun entry entry' scored scores scores' => ?_)
      (visits.nodup_iff.mpr (FileMap.nodup_values identified))
    exact (score?_eq_some_iff.mp scores).1.symm.trans (score?_eq_some_iff.mp scores').1
  have ranked : Ranking Scored.rank (· ∈ order.filterMap (score? query floor))
      (scoredIn order query floor) :=
    ranking_mergeSort nodup fun first member second member' =>
      ((found first).mp member).eq_of_rank ((found second).mp member')
  exact ⟨ranked.ordered, fun scored => (ranked.mem_iff scored).trans (found scored)⟩

/-! ## The answer -/

/-- The search when the entries are visited in the given order. -/
def searchIn (cache : EmbeddingCache) (order : List CacheEntry) (symbols : SymbolTable)
    (query : Embedding) (floor : Float32) (limit : Nat) (now : Int) :
    List SemanticHit × EmbeddingCache :=
  let scored := scoredIn order query floor
  let kept := (scored.filter fun scored => symbols.contains scored.entry.symbolId).take limit
  ((scored.filterMap fun scored => (symbols.get? scored.entry.symbolId).map fun symbol =>
      { symbol, similarity := scored.similarity }).take limit,
    kept.foldl (fun cache scored => cache.touch scored.entry.symbolId now) cache)

/-- A search visits the entries in the order they are listed. -/
theorem searchIn_toList (cache : EmbeddingCache) (symbols : SymbolTable) (query : Embedding)
    (floor : Float32) (limit : Nat) (now : Int) :
    cache.searchIn cache.toList symbols query floor limit now =
      cache.search symbols query floor limit now := rfl

/-- A hit shows the symbol of a scored entry and its similarity. -/
def Shows (symbols : SymbolTable) (scored : Scored) (hit : SemanticHit) : Prop :=
  symbols.get? scored.entry.symbolId = some hit.symbol ∧ hit.similarity = scored.similarity

/-- There is a hit for each scored entry that has a symbol, in the same order. -/
theorem shows_filterMap (symbols : SymbolTable) (ranked : List Scored) :
    List.Forall₂ (Shows symbols)
      (ranked.filter fun scored => symbols.contains scored.entry.symbolId)
      (ranked.filterMap fun scored => (symbols.get? scored.entry.symbolId).map fun symbol =>
        { symbol, similarity := scored.similarity }) := by
  induction ranked with
  | nil => exact .nil
  | cons first rest inductionHypothesis =>
    have known : symbols.contains first.entry.symbolId =
        (symbols.get? first.entry.symbolId).isSome :=
      Std.ExtTreeMap.contains_eq_isSome_getElem?
    cases found : symbols.get? first.entry.symbolId with
    | none =>
      rw [List.filter_cons_of_neg (by simp [known, found]),
        List.filterMap_cons_none (by simp [found])]
      exact inductionHypothesis
    | some symbol =>
      rw [List.filter_cons_of_pos (by simp [known, found]),
        List.filterMap_cons_some (by rw [found]; rfl)]
      exact .cons ⟨found, rfl⟩ inductionHypothesis

/-- Touching an entry twice is touching it once. -/
theorem CacheEntry.touch_touch (entry : CacheEntry) (now : Int) :
    (entry.touch now).touch now = entry.touch now := by
  simp [CacheEntry.touch]

/-- The noted entries, and no others, are accessed. -/
theorem get?_foldl_touch (noted : List Scored) (cache : EmbeddingCache) (now : Int) (id : String) :
    (noted.foldl (fun cache scored => cache.touch scored.entry.symbolId now) cache).get? id =
      (cache.get? id).map fun entry =>
        if id ∈ noted.map (·.entry.symbolId) then entry.touch now else entry := by
  induction noted generalizing cache with
  | nil => simp
  | cons first rest inductionHypothesis =>
    have touched : (cache.touch first.entry.symbolId now).get? id =
        if first.entry.symbolId = id then (cache.get? id).map (CacheEntry.touch · now)
        else cache.get? id := by
      rw [get?, touch, Std.ExtTreeMap.getElem?_modify]
      by_cases same : first.entry.symbolId = id
      · simp [same, get?]
      · simp [same, get?]
    rw [List.foldl_cons, inductionHypothesis, touched, List.map_cons]
    by_cases same : first.entry.symbolId = id
    · rw [if_pos same, Option.map_map]
      refine congrArg (fun change => (cache.get? id).map change) (funext fun entry => ?_)
      by_cases again : id ∈ rest.map (·.entry.symbolId)
      · simp [again, CacheEntry.touch_touch]
      · simp [again, same]
    · simp only [if_neg same, List.mem_cons, Ne.symm same, false_or]

/-- Touches leave the dimension. -/
theorem dimension_foldl_touch (noted : List Scored) (cache : EmbeddingCache) (now : Int) :
    (noted.foldl (fun cache scored => cache.touch scored.entry.symbolId now) cache).dimension =
      cache.dimension :=
  List.foldlRecOn (motive := fun (later : EmbeddingCache) => later.dimension = cache.dimension)
    noted _ rfl fun _ same _ _ => same

/-- The answer to a search shows the beginning of the ranking, and exactly the entries shown are
accessed. A smaller limit gives a beginning of the same answer, and the order in which the entries
are visited changes nothing. -/
structure TakesBest (cache : EmbeddingCache) (symbols : SymbolTable) (query : Embedding)
    (floor : Float32) (limit : Nat) (now : Int) (ranking : List Scored) : Prop where
  shows : List.Forall₂ (Shows symbols) (ranking.take limit)
    (cache.search symbols query floor limit now).1
  isFinite : ∀ hit ∈ (cache.search symbols query floor limit now).1, hit.similarity.isFinite = true
  get?_eq : ∀ id : String, (cache.search symbols query floor limit now).2.get? id =
    (cache.get? id).map fun entry =>
      if id ∈ (ranking.take limit).map (·.entry.symbolId)
      then { entry with lastAccess := max entry.lastAccess now }
      else entry
  dimension_eq : (cache.search symbols query floor limit now).2.dimension = cache.dimension
  starts : ∀ more, limit ≤ more → (cache.search symbols query floor limit now).1 <+:
    (cache.search symbols query floor more now).1
  searchIn_eq : ∀ order : List CacheEntry, order.Perm cache.toList →
    cache.searchIn order symbols query floor limit now =
      cache.search symbols query floor limit now

/-- A search ranks the entries that have a symbol and whose similarity to the query is defined and
reaches the floor, and it takes the best of them. -/
theorem search_takes_best (operations : List Operation) (symbols : SymbolTable)
    (query : Embedding) (floor : Float32) (limit : Nat) (now : Int) :
    ∃ ranking : List Scored,
      Ranking Scored.rank
        (fun scored => (afterOperations operations).Scores query floor scored ∧
          symbols.contains scored.entry.symbolId = true) ranking ∧
      (afterOperations operations).TakesBest symbols query floor limit now ranking := by
  generalize reached : afterOperations operations = cache
  have identified : cache.Identified := reached ▸ identified_afterOperations operations
  have visited := ranking_scoredIn identified (.refl cache.toList) query floor
  have ranked := visited.filter fun scored => symbols.contains scored.entry.symbolId
  have shown := shows_filterMap symbols (scoredIn cache.toList query floor)
  refine ⟨_, ranked, ?_⟩
  constructor
  · exact List.forall₂_take limit shown
  · intro hit member
    obtain ⟨scored, inside, found⟩ := List.mem_filterMap.mp (List.mem_of_mem_take member)
    obtain ⟨symbol, -, rfl⟩ := Option.map_eq_some_iff.mp found
    exact Embedding.isFinite_of_cosine? ((visited.mem_iff scored).mp inside).similar
  · exact get?_foldl_touch _ cache now
  · exact dimension_foldl_touch _ cache now
  · exact fun more fewer => List.take_prefix_take_left fewer
  · intro order visits
    rw [← searchIn_toList, searchIn, searchIn,
      (ranking_scoredIn identified visits query floor).unique visited]

end EmbeddingCache

end SourceAtlas
