import SourceAtlas.Proofs.Ranking
import SourceAtlas.Proofs.Symbol.Disturbance
import SourceAtlas.Proofs.Symbol.Listing
import SourceAtlas.Proofs.Text.Split
import SourceAtlas.Symbol.Search

/-!
# What a symbol search finds

A search ranks the symbols that pass the filters of the query and match its text
(`Matches`). Symbols that rank alike have one name, one file and one line, and
so one identifier: as long as identifiers are made of these three, the ranking
is one list whatever order the symbols are visited in, and a limit takes a
beginning of it.
-/

namespace SourceAtlas

instance : Std.TransCmp RankedSymbol.rank :=
  inferInstanceAs (Std.TransCmp (compareLex
    (fun first second => compareOn (fun found : RankedSymbol => floatRank found.score) second first)
    (compareLex (compareOn fun found : RankedSymbol => found.symbol.name)
      (compareLex (compareOn fun found : RankedSymbol => found.symbol.file)
        (compareOn fun found : RankedSymbol => found.symbol.startLine)))))

/-- What ranks alike agrees in name, file and line. -/
theorem RankedSymbol.keys_eq_of_rank {first second : RankedSymbol}
    (alike : rank first second = .eq) :
    first.symbol.name = second.symbol.name ∧ first.symbol.file = second.symbol.file ∧
      first.symbol.startLine = second.symbol.startLine := by
  simp only [rank, Ordering.then_eq_eq, Std.LawfulEqCmp.compare_eq_iff_eq] at alike
  exact alike.2

namespace SymbolTable

variable {table : SymbolTable} {query : SymbolQuery} {pattern : Option PathPattern}
  {found first second : RankedSymbol} {order : List Symbol}

/-- The symbol is stored, passes the kinds and the path pattern of the query and matches its text
with that score: exact search finds the folded text in the folded name, fuzzy search asks for a
relevance of at least the threshold. -/
structure Matches (table : SymbolTable) (query : SymbolQuery) (pattern : Option PathPattern)
    (found : RankedSymbol) : Prop where
  stored : found.symbol ∈ table.toList
  kind : query.kinds = [] ∨ found.symbol.kind ∈ query.kinds
  path : ∀ glob ∈ pattern, glob.accepts found.symbol.file = true
  exact : query.fuzzy = false →
    (query.fold (Text.trim query.text)).toList <:+: (query.fold found.symbol.name).toList ∧
      found.score = SymbolQuery.single (query.fold (Text.trim query.text)).length /
        SymbolQuery.single (max (query.fold found.symbol.name).length 1)
  fuzzy : query.fuzzy = true →
    found.score = (query.scorer (Text.trim query.text)).relevance found.symbol ∧
      found.score ≥ SymbolQuery.fuzzyThreshold

/-- A query admits symbols of its kinds in files that its pattern accepts. -/
theorem admits_iff {symbol : Symbol} :
    query.admits pattern symbol = true ↔
      (query.kinds = [] ∨ symbol.kind ∈ query.kinds) ∧
        ∀ glob ∈ pattern, glob.accepts symbol.file = true := by
  rw [SymbolQuery.admits, Bool.and_eq_true, Bool.or_eq_true, List.isEmpty_iff,
    List.contains_iff_mem]
  cases pattern <;> simp

/-- A symbol gets the score with which it matches. -/
theorem matches_iff (visits : ∀ symbol, symbol ∈ order ↔ symbol ∈ table.toList) :
    table.Matches query pattern found ↔
      (found.symbol ∈ order ∧ query.admits pattern found.symbol = true) ∧
        query.score? (Text.trim query.text) found.symbol = some found.score := by
  rw [visits, admits_iff, SymbolQuery.score?]
  constructor
  · rintro ⟨stored, kind, path, exact, fuzzy⟩
    refine ⟨⟨stored, kind, path⟩, ?_⟩
    split
    next blended =>
      obtain ⟨score, enough⟩ := fuzzy blended
      rw [score] at enough ⊢
      exact if_pos enough
    next plain =>
      obtain ⟨occurs, score⟩ := exact (Bool.eq_false_iff.mpr plain)
      rw [SymbolQuery.exactScore?, score]
      exact if_pos (Text.contains_iff.mpr occurs)
  · rintro ⟨⟨stored, kind, path⟩, scored⟩
    refine ⟨stored, kind, path, fun plain => ?_, fun blended => ?_⟩
    · rw [if_neg (by simp [plain]), SymbolQuery.exactScore?, Option.ite_none_right_eq_some] at scored
      exact ⟨Text.contains_iff.mp scored.1, (Option.some.inj scored.2).symm⟩
    · rw [if_pos blended, Option.ite_none_right_eq_some] at scored
      obtain ⟨enough, score⟩ := scored
      have same := (Option.some.inj score).symm
      exact ⟨same, same ▸ enough⟩

/-- Every match of a query, in the order in which the symbols are visited. -/
def matchesIn (order : List Symbol) (query : SymbolQuery) (pattern : Option PathPattern) :
    List RankedSymbol :=
  let score := query.score? (Text.trim query.text)
  (order.filter (query.admits pattern)).filterMap fun symbol =>
    (score symbol).map fun score => { symbol, score }

/-- The same, best first. -/
def rankedIn (order : List Symbol) (query : SymbolQuery) (pattern : Option PathPattern) :
    List RankedSymbol :=
  (matchesIn order query pattern).mergeSort RankedSymbol.before

/-- The search when the symbols are visited in the given order. -/
def searchIn (order : List Symbol) (query : SymbolQuery) :
    Except IndexError (List RankedSymbol) :=
  match query.pattern? with
  | .error error => .error error
  | .ok pattern =>
    if (Text.trim query.text).isEmpty || query.limit = 0 then .ok []
    else .ok ((rankedIn order query pattern).take query.limit)

/-- A search visits the symbols in the order they are listed. -/
theorem searchIn_toList (table : SymbolTable) (query : SymbolQuery) :
    searchIn table.toList query = table.search query := rfl

/-! ## The ranking -/

/-- The identifier of every stored symbol is made of its file, its name and its line. -/
def NamedByPlace (table : SymbolTable) : Prop :=
  ∀ symbol ∈ table.toList, symbol.id = Symbol.makeId symbol.file symbol.name symbol.startLine

instance (table : SymbolTable) : Decidable table.NamedByPlace :=
  inferInstanceAs (Decidable (∀ symbol ∈ table.toList, _))

/-- Different symbols never rank alike, whatever their scores. -/
theorem NamedByPlace.symbol_eq_of_rank (named : table.NamedByPlace) (identified : table.Identified)
    (one : first.symbol ∈ table.toList) (two : second.symbol ∈ table.toList)
    (alike : RankedSymbol.rank first second = .eq) : first.symbol = second.symbol := by
  obtain ⟨name, file, line⟩ := RankedSymbol.keys_eq_of_rank alike
  have id : first.symbol.id = second.symbol.id := by
    rw [named first.symbol one, named second.symbol two, name, file, line]
  have stored := (FileMap.mem_values_iff_of_keyed identified).mp one
  rw [id, (FileMap.mem_values_iff_of_keyed identified).mp two] at stored
  exact (Option.some.inj stored).symm

/-- A symbol matches with one score. -/
theorem Matches.eq_of_symbol_eq (one : table.Matches query pattern first)
    (two : table.Matches query pattern second) (same : first.symbol = second.symbol) :
    first = second := by
  have scored := ((matches_iff fun _ => .rfl).mp one).2
  rw [same, ((matches_iff fun _ => .rfl).mp two).2] at scored
  cases first
  cases second
  cases same
  cases scored
  rfl

/-- What is found in any order of the table is what matches. -/
theorem mem_matchesIn_iff (visits : order.Perm table.toList) :
    found ∈ matchesIn order query pattern ↔ table.Matches query pattern found := by
  obtain ⟨symbol, score⟩ := found
  rw [matches_iff fun _ => visits.mem_iff, matchesIn, List.mem_filterMap]
  constructor
  · rintro ⟨other, member, scored⟩
    obtain ⟨value, scores, same⟩ := Option.map_eq_some_iff.mp scored
    cases same
    exact ⟨List.mem_filter.mp member, scores⟩
  · rintro ⟨member, scores⟩
    exact ⟨symbol, List.mem_filter.mpr member, by rw [scores]; rfl⟩

/-- Nothing is found twice where nothing is visited twice. -/
theorem nodup_matchesIn (distinct : order.Nodup) (query : SymbolQuery)
    (pattern : Option PathPattern) : (matchesIn order query pattern).Nodup := by
  refine List.Nodup.filterMap (fun symbol symbol' found scored scored' => ?_) (distinct.filter _)
  obtain ⟨score, -, rfl⟩ := Option.map_eq_some_iff.mp scored
  obtain ⟨score', -, same⟩ := Option.map_eq_some_iff.mp scored'
  exact (congrArg RankedSymbol.symbol same).symm

/-- In whatever order the symbols are visited, their matches come out in one order. -/
theorem NamedByPlace.ranking_rankedIn (named : table.NamedByPlace) (identified : table.Identified)
    (visits : order.Perm table.toList) (query : SymbolQuery) (pattern : Option PathPattern) :
    Ranking RankedSymbol.rank (table.Matches query pattern) (rankedIn order query pattern) := by
  have distinct : order.Nodup := visits.nodup_iff.mpr (FileMap.nodup_values identified)
  have ranked : Ranking RankedSymbol.rank (· ∈ matchesIn order query pattern)
      (rankedIn order query pattern) := by
    refine ranking_mergeSort (nodup_matchesIn distinct query pattern) ?_
    intro first member second member' alike
    have one := (mem_matchesIn_iff visits).mp member
    have two := (mem_matchesIn_iff visits).mp member'
    exact one.eq_of_symbol_eq two (named.symbol_eq_of_rank identified one.stored two.stored alike)
  exact ⟨ranked.ordered, fun item => (ranked.mem_iff item).trans (mem_matchesIn_iff visits)⟩

/-- No symbol is ranked twice. -/
theorem nodup_symbols_of_ranking {ranking : List RankedSymbol}
    (ranked : Ranking RankedSymbol.rank (table.Matches query pattern) ranking) :
    (ranking.map RankedSymbol.symbol).Nodup := by
  refine (nodup_of_rising ranked.ordered).map_on fun first member second member' same => ?_
  exact ((ranked.mem_iff first).mp member).eq_of_symbol_eq ((ranked.mem_iff second).mp member') same

/-! ## The search -/

/-- A malformed pattern is refused with its error. -/
theorem search_of_malformed {glob : String} {error : PatternError}
    (asked : query.filePattern = some glob) (malformed : PathPattern.parse glob = .error error) :
    table.search query = .error (.invalidPattern glob error.message) := by
  rw [search, SymbolQuery.pattern?, asked]
  simp only [malformed]

/-- A search with a text and room for a hit takes the beginning of the ranking. -/
theorem searchIn_of_wellFormed (order : List Symbol) (wellFormed : query.pattern? = .ok pattern)
    (text : (Text.trim query.text).isEmpty = false) (room : 0 < query.limit) :
    searchIn order query = .ok ((rankedIn order query pattern).take query.limit) := by
  have asked : ¬((Text.trim query.text).isEmpty || query.limit = 0) = true := by
    simp [text, Nat.ne_of_gt room]
  rw [searchIn, wellFormed]
  exact if_neg asked

/-- A malformed path pattern is refused whatever the text and the limit. Any other search with a
text ranks the symbols that match, no two of them alike, and takes as many from the beginning as the
limit says; the order in which the symbols are visited changes nothing. -/
theorem search_takes_first (edits : List Edit) (named : (afterEdits edits).NamedByPlace)
    (query : SymbolQuery) :
    (∀ glob error, query.filePattern = some glob → PathPattern.parse glob = .error error →
      ∀ text limit, (afterEdits edits).search { query with text, limit } =
        .error (.invalidPattern glob error.message)) ∧
    (∀ first second : RankedSymbol, first.symbol ∈ (afterEdits edits).toList →
      second.symbol ∈ (afterEdits edits).toList → first.symbol ≠ second.symbol →
        RankedSymbol.rank first second ≠ .eq) ∧
    (∀ order : List Symbol, order.Perm (afterEdits edits).toList →
      searchIn order query = (afterEdits edits).search query) ∧
    ∀ pattern, query.pattern? = .ok pattern → (Text.trim query.text).isEmpty = false →
      ∃ ranking : List RankedSymbol,
        Ranking RankedSymbol.rank ((afterEdits edits).Matches query pattern) ranking ∧
        (ranking.map RankedSymbol.symbol).Nodup ∧
        ∀ limit, 0 < limit →
          (afterEdits edits).search { query with limit } = .ok (ranking.take limit) ∧
          ∀ more, limit ≤ more → ∃ longer,
            (afterEdits edits).search { query with limit := more } = .ok longer ∧
              ranking.take limit <+: longer := by
  generalize reached : afterEdits edits = table at named
  have identified : table.Identified := reached ▸ (listed_afterEdits edits).identified
  refine ⟨?_, ?_, ?_, ?_⟩
  · exact fun glob error asked malformed text limit => search_of_malformed asked malformed
  · intro first second one two differ alike
    exact differ (named.symbol_eq_of_rank identified one two alike)
  · intro order visits
    have ranked : ∀ pattern, rankedIn order query pattern = rankedIn table.toList query pattern :=
      fun pattern => (named.ranking_rankedIn identified visits query pattern).unique
        (named.ranking_rankedIn identified (.refl _) query pattern)
    rw [← searchIn_toList, searchIn, searchIn]
    simp only [ranked]
  · intro pattern wellFormed text
    have taken : ∀ limit, 0 < limit → table.search { query with limit } =
        .ok ((rankedIn table.toList query pattern).take limit) :=
      fun limit room => searchIn_of_wellFormed table.toList wellFormed text room
    have ranked := named.ranking_rankedIn identified (.refl _) query pattern
    refine ⟨_, ranked, nodup_symbols_of_ranking ranked, fun limit room => ⟨taken limit room, ?_⟩⟩
    intro more atLeast
    exact ⟨_, taken more (Nat.lt_of_lt_of_le room atLeast), List.take_prefix_take_left atLeast⟩

/-! ## A search: hits with one score in two files -/

/-- Two files that define functions of one name and of names that contain it. -/
def loaderEdits : List Edit :=
  [.replaceFile "b.ts" [oneLiner "b.ts" "load" 2, oneLiner "b.ts" "save" 1] 1,
    .replaceFile "a.ts" [oneLiner "a.ts" "Reload" 3, oneLiner "a.ts" "Load" 7,
      oneLiner "a.ts" "load" 9, oneLiner "a.ts" "load" 8] 2]

/-- An exact search for the name, with room for three hits. -/
def loaderQuery : SymbolQuery where
  text := " LOAD "
  fuzzy := false
  limit := 3
  filePattern := some "*.ts"

/-- The pattern of the query. -/
def anyScript : PathPattern := ⟨[.anySequence, .literal '.', .literal 't', .literal 's']⟩

/-- The stored functions in another order than that of their identifiers. -/
def loaders : List Symbol :=
  [oneLiner "a.ts" "Load" 7, oneLiner "a.ts" "load" 8, oneLiner "a.ts" "load" 9,
    oneLiner "b.ts" "load" 2, oneLiner "a.ts" "Reload" 3, oneLiner "b.ts" "save" 1]

/-- Of the four hits with the best score the three that come first by name, file and line are
returned. -/
theorem loaderEdits_takes_first :
    (afterEdits loaderEdits).NamedByPlace ∧ loaderQuery.pattern? = .ok (some anyScript) ∧
      (∃ hits, (afterEdits loaderEdits).search loaderQuery = .ok hits ∧
        hits.map (·.symbol.id) = ["a.ts:Load:7", "a.ts:load:8", "a.ts:load:9"]) ∧
      ∃ ranking, Ranking RankedSymbol.rank
          ((afterEdits loaderEdits).Matches loaderQuery (some anyScript)) ranking ∧
        (afterEdits loaderEdits).search loaderQuery = .ok (ranking.take 3) := by
  have named : (afterEdits loaderEdits).NamedByPlace := by decide +kernel
  have wellFormed : loaderQuery.pattern? = .ok (some anyScript) := rfl
  have text : (Text.trim loaderQuery.text).isEmpty = false := by decide +kernel
  obtain ⟨-, -, anyOrder, ranks⟩ := search_takes_first loaderEdits named loaderQuery
  obtain ⟨ranking, ranked, -, taken⟩ := ranks (some anyScript) wellFormed text
  -- Visited in the order of their ranks, the matches need no sorting.
  have visits : loaders.Perm (afterEdits loaderEdits).toList := by decide +kernel
  have sorted : rankedIn loaders loaderQuery (some anyScript) =
      matchesIn loaders loaderQuery (some anyScript) :=
    List.mergeSort_of_pairwise (by decide +kernel)
  have found : (afterEdits loaderEdits).search loaderQuery =
      .ok ((matchesIn loaders loaderQuery (some anyScript)).take 3) := by
    rw [← anyOrder loaders visits, ← sorted]
    exact searchIn_of_wellFormed loaders wellFormed text (by decide)
  exact ⟨named, wellFormed, ⟨_, found, by decide +kernel⟩, ranking, ranked, (taken 3 (by decide)).1⟩

end SymbolTable

end SourceAtlas
