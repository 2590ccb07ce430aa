import SourceAtlas.Index.Query
import SourceAtlas.Proofs.Index.Pairing

/-!
# What is done with an index

Queries that need published contents (`Query`) are refused without them and
answered from them alone: two indexes with the same settings, symbols, graph and
vectors answer every run of queries alike. An `Operation` is a pass, a save, a
clearing or a query, with all that it meets.
-/

namespace SourceAtlas

/-- A query that needs published contents. -/
inductive Query where
  | search (text : String) (limit : Nat)
  | symbols (query : SymbolQuery)
  | symbolsInFile (file : String)
  | symbolsOfKind (kind : SymbolKind)
  | usages (name : String) (scope : UsageScope)
  | crossReferences (name : String)
  | dependencies (file : String)
  | dependents (file : String)
  | cycles
  | unreachable (entries : List String)
  | analyze (entries : List String)
  | analyzeFile (file : String)
  | exported

namespace Query

variable {σ : Type} {index : Index σ}

/-- What a query gives. -/
def Answer : Query → Type
  | search .. => List SearchResult
  | symbols .. => List RankedSymbol
  | symbolsInFile .. => List Symbol
  | symbolsOfKind .. => List Symbol
  | usages .. => List Usage
  | crossReferences .. => Option CrossReference
  | dependencies .. => List String
  | dependents .. => List String
  | cycles => List Graph.Cycle
  | unreachable .. => List String
  | analyze .. => Graph.Analysis
  | analyzeFile .. => Option Graph.FileAnalysis
  | exported => Graph.Exported

/-- The name under which a query is refused. -/
def name : Query → String
  | search .. => "search"
  | symbols .. => "search_symbols"
  | symbolsInFile .. => "symbols_in_file"
  | symbolsOfKind .. => "symbols_of_kind"
  | usages .. => "find_usages"
  | crossReferences .. => "cross_references"
  | dependencies .. => "dependencies"
  | dependents .. => "dependents"
  | cycles => "find_cycles"
  | unreachable .. => "find_unreachable"
  | analyze .. => "analyze_dependencies"
  | analyzeFile .. => "module_analysis"
  | exported => "graph_export"

/-- The answer of an index in a workspace. -/
def answer (index : Index σ) (workspace : Workspace σ) (now : Int) :
    (query : Query) → Except IndexError query.Answer
  | search text limit => (index.search workspace text limit now).1
  | symbols query => (index.searchSymbols workspace query).1
  | symbolsInFile file => index.symbolsInFile workspace.files file
  | symbolsOfKind kind => index.symbolsOfKind kind
  | usages name scope => index.usages workspace.files name scope
  | crossReferences name => index.crossReferences workspace.files name
  | dependencies file => index.dependencies workspace.files file
  | dependents file => index.dependents workspace.files file
  | cycles => index.cycles
  | unreachable entries => index.unreachable workspace.files entries
  | analyze entries => index.analyze workspace.files entries
  | analyzeFile file => index.analyzeFile workspace.files file
  | exported => index.exported

/-- The index after a query: a search by meaning notes which vectors it used. -/
def after (query : Query) (index : Index σ) (workspace : Workspace σ) (now : Int) : Index σ :=
  match query with
  | search text limit => (index.search workspace text limit now).2.1
  | _ => index

/-- A result other than a refusal. -/
def Answers {α : Type} (result : Except IndexError α) : Prop :=
  ∀ operation phase, result ≠ .error (.notReady operation phase)

/-- A query without published contents is refused as they are, and not refused with them. -/
def Guarded {α : Type} (ready : Except IndexError IndexState) (result : Except IndexError α) :
    Prop :=
  (∃ error, ready = .error error ∧ result = .error error) ∨
    ∃ state, ready = .ok state ∧ Answers result

/-- A value is no refusal. -/
theorem answers_ok {α : Type} (value : α) : Answers (.ok value : Except IndexError α) := by
  intro operation phase refused
  cases refused

/-- A query that asks for published contents first is guarded by them. -/
theorem guarded_bind {α : Type} {ready : Except IndexError IndexState}
    {reply : IndexState → Except IndexError α} (answers : ∀ state, Answers (reply state)) :
    Guarded ready (ready >>= reply) := by
  cases ready with
  | error error => exact .inl ⟨error, rfl, rfl⟩
  | ok state => exact .inr ⟨state, rfl, answers state⟩

/-- The search of a table is never refused for its phase. -/
theorem answers_search (table : SymbolTable) (query : SymbolQuery) :
    Answers (table.search query) := by
  rw [SymbolTable.search]
  split
  · next error invalid =>
    rw [SymbolQuery.pattern?] at invalid
    split at invalid
    · cases invalid
    · split at invalid <;> cases invalid
      intro operation phase refused
      cases refused
  · split <;> exact answers_ok _

/-- The vector of a query is never refused for its phase. -/
theorem answers_queryVector (index : Index σ) (provider : Provider σ) (text : String) (state : σ) :
    Answers (index.queryVector provider text state).1 := by
  intro operation phase refused
  simp only [Index.queryVector] at refused
  split at refused
  · cases refused
  · split at refused <;> cases refused

/-- A search by meaning is guarded by the published contents. -/
theorem guarded_search (index : Index σ) (workspace : Workspace σ) (text : String) (limit : Nat)
    (now : Int) :
    Guarded (index.readyState "search") (index.search workspace text limit now).1 := by
  simp only [Index.search]
  split
  · next error ready => exact .inl ⟨error, ready, rfl⟩
  · next state ready _ => exact .inr ⟨state, ready, fun _ _ refused => by cases refused⟩
  · next state provider ready _ =>
    refine .inr ⟨state, ready, ?_⟩
    split
    · exact answers_ok _
    · have answers := answers_queryVector index provider (Text.trim text)
        (Index.countSearch workspace).provider
      split
      · next error failed =>
        rw [failed] at answers
        intro operation phase refused
        cases refused
        exact answers operation phase rfl
      · exact answers_ok _

/-- Every query is guarded by its name. -/
theorem guarded_answer (index : Index σ) (workspace : Workspace σ) (now : Int) (query : Query) :
    Guarded (index.readyState query.name) (query.answer index workspace now) := by
  cases query with
  | search text limit => exact guarded_search index workspace text limit now
  | symbols query =>
    rw [answer, Index.searchSymbols]
    cases ready : index.readyState "search_symbols" with
    | error error => exact .inl ⟨error, ready, rfl⟩
    | ok state => exact .inr ⟨state, ready, answers_search state.symbols query⟩
  | symbolsInFile file => exact guarded_bind fun _ => answers_ok _
  | symbolsOfKind kind => exact guarded_bind fun _ => answers_ok _
  | usages name scope => exact guarded_bind fun _ => answers_ok _
  | crossReferences name => exact guarded_bind fun _ => answers_ok _
  | dependencies file => exact guarded_bind fun _ => answers_ok _
  | dependents file =>
    refine guarded_bind fun state => ?_
    split <;> exact answers_ok _
  | cycles => exact guarded_bind fun _ => answers_ok _
  | unreachable entries => exact guarded_bind fun _ => answers_ok _
  | analyze entries => exact guarded_bind fun _ => answers_ok _
  | analyzeFile file => exact guarded_bind fun _ => answers_ok _
  | exported => exact guarded_bind fun _ => answers_ok _

/-- A query is refused in the phases without published contents, under its name, and in no other
phase. -/
theorem answer_eq_notReady_iff (index : Index σ) (workspace : Workspace σ) (now : Int)
    (query : Query) (operation : String) (phase : IndexPhase) :
    query.answer index workspace now = .error (.notReady operation phase) ↔
      index.phase.isQueryable = false ∧ operation = query.name ∧ phase = index.phase := by
  have guarded := guarded_answer index workspace now query
  rw [Index.readyState] at guarded
  split at guarded
  · next queryable =>
    obtain ⟨error, ready, -⟩ | ⟨state, -, answers⟩ := guarded
    · cases ready
    · simp [queryable, answers operation phase]
  · next refused =>
    obtain ⟨error, ready, result⟩ | ⟨state, ready, -⟩ := guarded
    · cases ready
      rw [result]
      simp only [Bool.not_eq_true] at refused
      simp only [Except.error.injEq, IndexError.notReady.injEq, refused, true_and]
      exact ⟨fun same => ⟨same.1.symm, same.2.symm⟩, fun same => ⟨same.1.symm, same.2.symm⟩⟩
    · cases ready

/-- A query changes nothing but the times at which vectors were used last. -/
theorem after_eq (query : Query) (index : Index σ) (workspace : Workspace σ) (now : Int) :
    ∃ embeddings, query.after index workspace now =
      { index with published := { index.published with embeddings } } := by
  cases query with
  | search text limit =>
    simp only [after, Index.search]
    split
    · exact ⟨_, rfl⟩
    · exact ⟨_, rfl⟩
    · next state provider ready _ =>
      obtain rfl := Index.eq_published_of_readyState ready
      split
      · exact ⟨_, rfl⟩
      · split
        · exact ⟨_, rfl⟩
        · exact ⟨_, rfl⟩
  | _ => exact ⟨_, rfl⟩

/-- A query that fails changes nothing. -/
theorem after_of_error {query : Query} {workspace : Workspace σ} {now : Int} {error : IndexError}
    (failed : query.answer index workspace now = .error error) :
    query.after index workspace now = index := by
  cases query with
  | search text limit =>
    simp only [answer, Index.search] at failed
    simp only [after, Index.search]
    split at failed
    · rfl
    · rfl
    · split at failed
      · cases failed
      · next asked =>
        split at failed
        · simp only [if_neg asked]
        · cases failed
  | _ => rfl

end Query

/-- The entries after accesses were noted follow from the entries before. -/
theorem EmbeddingCache.entries_foldl_touch (noted : List Scored) (now : Int)
    {first second : EmbeddingCache} (same : first.entries = second.entries) :
    (noted.foldl (fun cache scored => cache.touch scored.entry.symbolId now) first).entries =
      (noted.foldl (fun cache scored => cache.touch scored.entry.symbolId now) second).entries := by
  induction noted generalizing first second with
  | nil => exact same
  | cons scored rest inductionHypothesis =>
    refine inductionHypothesis ?_
    simp only [touch, same]

namespace Index

variable {σ : Type} {first second : Index σ}

/-- Two indexes are the same in all that queries read. -/
structure Agrees (first second : Index σ) : Prop where
  root : first.root = second.root
  settings : first.settings = second.settings
  provider : first.provider = second.provider
  phase : first.phase = second.phase
  symbols : first.published.symbols = second.published.symbols
  graph : first.published.graph = second.published.graph
  entries : first.published.embeddings.entries = second.published.embeddings.entries

/-- Either both indexes refuse, or both answer from their published states. -/
theorem Agrees.readyState_cases (agrees : first.Agrees second) (operation : String) :
    (∃ error, first.readyState operation = .error error ∧
        second.readyState operation = .error error) ∨
      (first.readyState operation = .ok first.published ∧
        second.readyState operation = .ok second.published) := by
  rw [readyState, readyState, agrees.phase]
  split
  · exact .inr ⟨rfl, rfl⟩
  · exact .inl ⟨_, rfl, rfl⟩

/-- Indexes that agree reply alike, where the replies to what they publish are alike. -/
theorem Agrees.bind_eq {α : Type} (agrees : first.Agrees second) (operation : String)
    {reply reply' : IndexState → Except IndexError α}
    (same : reply first.published = reply' second.published) :
    first.readyState operation >>= reply = second.readyState operation >>= reply' := by
  obtain ⟨error, refused, refused'⟩ | ⟨ready, ready'⟩ := agrees.readyState_cases operation
  · rw [refused, refused']
    rfl
  · rw [ready, ready']
    exact same

/-- Indexes that agree have the same keys for the same paths. -/
theorem Agrees.keyOf?_eq (agrees : first.Agrees second) : first.keyOf? = second.keyOf? := by
  funext files path
  rw [keyOf?, keyOf?, agrees.root]

/-- Indexes that agree read the same sources. -/
theorem Agrees.sourceText?_eq (agrees : first.Agrees second) :
    first.sourceText? = second.sourceText? := by
  funext files key
  rw [sourceText?, sourceText?, agrees.root]

/-- Indexes that agree start from the same files. -/
theorem Agrees.entryKeys_eq (agrees : first.Agrees second) :
    first.entryKeys = second.entryKeys := by
  funext files graph entries
  rw [entryKeys, entryKeys, agrees.keyOf?_eq]

/-- Indexes that agree ask for the same vectors. -/
theorem Agrees.queryVector_eq (agrees : first.Agrees second) :
    first.queryVector = second.queryVector := by
  funext provider query state
  rw [queryVector, queryVector, timesOut, timesOut, agrees.settings]

/-- Indexes that agree answer a search alike and agree after it. -/
theorem Agrees.search (agrees : first.Agrees second) (workspace : Workspace σ) (text : String)
    (limit : Nat) (now : Int) :
    (first.search workspace text limit now).1 = (second.search workspace text limit now).1 ∧
      (first.search workspace text limit now).2.1.Agrees
        (second.search workspace text limit now).2.1 := by
  simp only [Index.search, agrees.provider, agrees.queryVector_eq, agrees.settings]
  obtain ⟨error, refused, refused'⟩ | ⟨ready, ready'⟩ := agrees.readyState_cases "search"
  · rw [refused, refused']
    exact ⟨rfl, agrees⟩
  · rw [ready, ready']
    cases second.provider with
    | none => exact ⟨rfl, agrees⟩
    | some provider =>
      dsimp only
      split
      · exact ⟨rfl, agrees⟩
      · split
        · exact ⟨rfl, agrees⟩
        · next vector _ =>
          -- Hits are ranked from the entries alone: the dimensions may differ.
          have listed : first.published.embeddings.toList = second.published.embeddings.toList := by
            rw [EmbeddingCache.toList, EmbeddingCache.toList, agrees.entries]
          have scored : first.published.embeddings.scored vector =
              second.published.embeddings.scored vector := by
            funext floor
            rw [EmbeddingCache.scored, EmbeddingCache.scored, listed]
          refine ⟨?_, ?_⟩
          · simp only [EmbeddingCache.search, EmbeddingCache.hits, scored, agrees.symbols]
          · simp only [EmbeddingCache.search, scored, agrees.symbols]
            exact ⟨agrees.root, rfl, rfl, agrees.phase, rfl, agrees.graph,
              EmbeddingCache.entries_foldl_touch _ now agrees.entries⟩

/-- Indexes that are the same in all that queries read give the same answers. -/
theorem Agrees.answer_eq (agrees : first.Agrees second) (query : Query) (workspace : Workspace σ)
    (now : Int) : query.answer first workspace now = query.answer second workspace now := by
  cases query with
  | search text limit => exact (agrees.search workspace text limit now).1
  | symbols query =>
    rw [Query.answer, Query.answer, searchSymbols, searchSymbols]
    obtain ⟨error, refused, refused'⟩ | ⟨ready, ready'⟩ := agrees.readyState_cases "search_symbols"
    · rw [refused, refused']
    · rw [ready, ready']
      exact congrArg (fun symbols => symbols.search query) agrees.symbols
  | symbolsInFile file =>
    exact agrees.bind_eq _ (by rw [agrees.keyOf?_eq, agrees.symbols])
  | symbolsOfKind kind => exact agrees.bind_eq _ (by rw [agrees.symbols])
  | usages name scope =>
    exact agrees.bind_eq _ (by rw [agrees.sourceText?_eq, agrees.symbols])
  | crossReferences name =>
    exact agrees.bind_eq _ (by rw [agrees.sourceText?_eq, agrees.symbols])
  | dependencies file => exact agrees.bind_eq _ (by rw [agrees.keyOf?_eq, agrees.graph])
  | dependents file => exact agrees.bind_eq _ (by rw [agrees.keyOf?_eq, agrees.graph])
  | cycles => exact agrees.bind_eq _ (by rw [agrees.graph])
  | unreachable entries => exact agrees.bind_eq _ (by rw [agrees.entryKeys_eq, agrees.graph])
  | analyze entries => exact agrees.bind_eq _ (by rw [agrees.entryKeys_eq, agrees.graph])
  | analyzeFile file => exact agrees.bind_eq _ (by rw [agrees.keyOf?_eq, agrees.graph])
  | exported => exact agrees.bind_eq _ (by rw [agrees.graph])

/-- A query with the workspace that it meets. -/
structure Asked (σ : Type) where
  query : Query
  workspace : Workspace σ
  now : Int

/-- The index after queries that were asked one after the other. -/
def afterAll (index : Index σ) (asked : List (Asked σ)) : Index σ :=
  asked.foldl (fun index asked => asked.query.after index asked.workspace asked.now) index

/-- Indexes that agree do so after a query. -/
theorem Agrees.after (agrees : first.Agrees second) (query : Query) (workspace : Workspace σ)
    (now : Int) : (query.after first workspace now).Agrees (query.after second workspace now) := by
  cases query with
  | search text limit => exact (agrees.search workspace text limit now).2
  | _ => exact agrees

/-- Indexes that agree do so after any queries. -/
theorem Agrees.afterAll (agrees : first.Agrees second) (asked : List (Asked σ)) :
    (first.afterAll asked).Agrees (second.afterAll asked) := by
  induction asked generalizing first second with
  | nil => exact agrees
  | cons next rest inductionHypothesis =>
    exact inductionHypothesis (agrees.after next.query next.workspace next.now)

end Index

namespace Visit

variable {σ : Type}

/-- A pass fails and leaves the phase and the contents, or succeeds and publishes a snapshot. -/
theorem outcome_cases (visit : Visit σ) (index : Index σ) :
    ((∃ error, (visit.outcome index).result = .error error) ∧
        (visit.outcome index).index.phase = index.phase ∧
        (visit.outcome index).index.published = index.published) ∨
      ((∃ stats, (visit.outcome index).result = .ok stats) ∧
        (visit.outcome index).index.phase = .ready ∧
        (visit.outcome index).index.published.snapshot.isSome) := by
  obtain failed | ⟨snapshot, succeeds, phase, published⟩ := visit.outcome_made index
  · exact .inl failed
  · refine .inr ⟨⟨_, succeeds⟩, phase, ?_⟩
    rw [published]
    exact Option.isSome_of_eq_some PassContext.snapshot_apply

end Visit

/-- Something done with an index, with all it meets. -/
inductive Operation (σ : Type) where
  | pass (visit : Visit σ)
  | save (files : FileSystem) (now : Int)
  | clear (workspace : Workspace σ)
  | ask (query : Query) (workspace : Workspace σ) (now : Int)

namespace Operation

variable {σ : Type}

/-- Whether an operation succeeds. -/
def result (operation : Operation σ) (index : Index σ) : Except IndexError Unit :=
  match operation with
  | pass visit => (visit.outcome index).result.map fun _ => ()
  | save files now => (index.save files now).1
  | clear workspace => (index.clear workspace).1
  | ask query workspace now => (query.answer index workspace now).map fun _ => ()

/-- The index after an operation. -/
def after (operation : Operation σ) (index : Index σ) : Index σ :=
  match operation with
  | pass visit => (visit.outcome index).index
  | save .. => index
  | clear workspace => (index.clear workspace).2.1
  | ask query workspace now => query.after index workspace now

/-- Whether an operation drops the contents. -/
def clears : Operation σ → Bool
  | clear _ => true
  | _ => false

/-- No operation moves an index to another root or changes its settings. -/
theorem fixed_after (operation : Operation σ) (index : Index σ) :
    (operation.after index).root = index.root ∧
      (operation.after index).settings = index.settings := by
  cases operation with
  | pass visit =>
    obtain ⟨request, workspace, now⟩ := visit
    cases request with
    | build options =>
      simp only [after, Visit.outcome, Index.build]
      split
      · exact ⟨rfl, rfl⟩
      · split <;> exact ⟨rfl, rfl⟩
    | update paths =>
      simp only [after, Visit.outcome, Index.update]
      split
      · split <;> exact ⟨rfl, rfl⟩
      · exact ⟨rfl, rfl⟩
  | save files now => exact ⟨rfl, rfl⟩
  | clear workspace =>
    simp only [after, Index.clear, Index.publish]
    split <;> exact ⟨rfl, rfl⟩
  | ask query workspace now =>
    obtain ⟨embeddings, after⟩ := query.after_eq index workspace now
    rw [Operation.after, after]
    exact ⟨rfl, rfl⟩

/-- No operation changes the root. -/
theorem root_after (operation : Operation σ) (index : Index σ) :
    (operation.after index).root = index.root := (operation.fixed_after index).1

/-- No operation changes the settings. -/
theorem settings_after (operation : Operation σ) (index : Index σ) :
    (operation.after index).settings = index.settings := (operation.fixed_after index).2

end Operation

end SourceAtlas
