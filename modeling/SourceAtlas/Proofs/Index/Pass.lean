import SourceAtlas.Proofs.Graph.Assembly
import SourceAtlas.Proofs.Index.Contents
import SourceAtlas.Proofs.Snapshot.Changes

/-!
# A pass leaves what the tracked files hold

A state `Reflects` a tree when its table stores the contents of the tracked
files and its graph is assembled from them. A pass over the changes since such
a state reflects the tree it ran on, as long as it evicts nothing and every
path that the change set calls unchanged has the contents it had before.
-/

namespace SourceAtlas

/-- A budget that lets nothing go leaves the symbols as they are. -/
theorem MemoryBudget.symbols_enforceFrom {highWater fuel : Nat} {symbols : SymbolTable}
    {cache : EmbeddingCache} (none : (enforceFrom highWater fuel symbols cache).1 = []) :
    (enforceFrom highWater fuel symbols cache).2.1 = symbols := by
  induction fuel generalizing symbols cache with
  | zero => rfl
  | succ fuel inductionHypothesis =>
    rw [enforceFrom] at none ⊢
    split
    · rfl
    · next exceeded =>
      rw [if_neg exceeded] at none
      obtain ⟨noneNow, noneLater⟩ := List.append_eq_nil_iff.mp none
      rw [noneNow] at noneLater ⊢
      exact inductionHypothesis noneLater

namespace PassContext

variable {σ : Type} {context earlier : PassContext σ} {previous : Option Snapshot}
  {snapshot : Snapshot} {file : ParsedFile} {path : String}

/-- The files that a pass over a change set reads and parses. -/
def parsedFiles (context : PassContext σ) (changes : ChangeSet) : List ParsedFile :=
  (splitOutcomes ((context.toParse changes).map context.parseFile)).2

/-- Records that a change set calls unchanged have the contents they had before. -/
def Settled (earlier context : PassContext σ) (before after : FileMap FileRecord) : Prop :=
  ∀ (path : String) (old new : FileRecord), before[path]? = some old → after[path]? = some new →
    Snapshot.classify before path new = .unchanged → earlier.contentOf? old = context.contentOf? new

/-- A parsed file is the content of a changed record. -/
theorem mem_parsedFiles (keyed : Keyed snapshot.files) :
    file ∈ context.parsedFiles (Snapshot.diff previous snapshot) ↔
      ∃ record, snapshot.files[file.path]? = some record ∧
        Snapshot.classify (Snapshot.filesOf previous) file.path record ≠ .unchanged ∧
        context.isIndexable file.path = true ∧ context.parseFile record = .ok file := by
  rw [parsedFiles, mem_splitOutcomes]
  simp only [toParse, List.mem_filter, Snapshot.mem_upserted_diff keyed]
  constructor
  · rintro ⟨record, ⟨⟨found, changed⟩, indexable⟩, parsed⟩
    rw [(path_of_parseFile parsed).1]
    exact ⟨record, found, changed, indexable, parsed⟩
  · rintro ⟨record, found, changed, indexable, parsed⟩
    rw [(path_of_parseFile parsed).1] at found changed indexable
    exact ⟨record, ⟨⟨found, changed⟩, indexable⟩, parsed⟩

/-- A path has one parsed file at most. -/
theorem parsedFiles_unique (keyed : Keyed snapshot.files) :
    ∀ first ∈ context.parsedFiles (Snapshot.diff previous snapshot),
      ∀ second ∈ context.parsedFiles (Snapshot.diff previous snapshot),
        first.path = second.path → first = second := by
  intro first firstMember second secondMember same
  obtain ⟨record, found, -, -, parsed⟩ := (mem_parsedFiles keyed).mp firstMember
  obtain ⟨record', found', -, -, parsed'⟩ := (mem_parsedFiles keyed).mp secondMember
  rw [same, found'] at found
  cases found
  rw [parsed'] at parsed
  cases parsed
  rfl

/-- Dropped are the files that are gone, and the changed ones that did not parse. -/
theorem mem_dropped (keyed : Keyed snapshot.files) :
    path ∈ dropped (Snapshot.diff previous snapshot)
        (context.parsedFiles (Snapshot.diff previous snapshot)) ↔
      (path ∈ Snapshot.filesOf previous ∧ path ∉ snapshot.files) ∨
      ((∃ record, snapshot.files[path]? = some record ∧
        Snapshot.classify (Snapshot.filesOf previous) path record ≠ .unchanged) ∧
        ∀ file ∈ context.parsedFiles (Snapshot.diff previous snapshot), file.path ≠ path) := by
  simp only [dropped, List.mem_append, Snapshot.mem_deleted_diff, List.mem_filter, List.mem_map,
    Snapshot.mem_upserted_diff keyed]
  refine or_congr Iff.rfl (and_congr ?_ ?_)
  · constructor
    · rintro ⟨record, changed, rfl⟩
      exact ⟨record, changed⟩
    · rintro ⟨record, found, changed⟩
      have same := keyed.path_eq found
      exact ⟨record, by rw [same]; exact ⟨found, changed⟩, same⟩
  · simp

/-- An unchanged file is not parsed. -/
theorem lastFor_parsedFiles_eq_none (keyed : Keyed snapshot.files)
    (unchanged : ∀ record, snapshot.files[path]? = some record →
      Snapshot.classify (Snapshot.filesOf previous) path record = .unchanged) :
    lastFor ParsedFile.path (context.parsedFiles (Snapshot.diff previous snapshot)) path = none := by
  refine Option.eq_none_iff_forall_ne_some.mpr fun file found => ?_
  obtain ⟨member, rfl⟩ := (lastFor_eq_some_iff (parsedFiles_unique keyed)).mp found
  obtain ⟨record, tracked, changed, -⟩ := (mem_parsedFiles keyed).mp member
  exact changed (unchanged record tracked)

/-- What is parsed for a changed record is its content. -/
theorem lastFor_parsedFiles {record : FileRecord} (keyed : Keyed snapshot.files)
    (tracked : snapshot.files[path]? = some record)
    (changed : Snapshot.classify (Snapshot.filesOf previous) path record ≠ .unchanged) :
    (lastFor ParsedFile.path (context.parsedFiles (Snapshot.diff previous snapshot)) path).map
        ParsedFile.untimed = context.contentOf? record := by
  have own := keyed.path_eq tracked
  cases found : lastFor ParsedFile.path
      (context.parsedFiles (Snapshot.diff previous snapshot)) path with
  | some file =>
    obtain ⟨member, rfl⟩ := (lastFor_eq_some_iff (parsedFiles_unique keyed)).mp found
    obtain ⟨record', tracked', -, indexable, parsed⟩ := (mem_parsedFiles keyed).mp member
    rw [tracked] at tracked'
    cases tracked'
    rw [contentOf?, own, if_pos indexable, parsed]
    rfl
  | none =>
    rw [contentOf?, own]
    split
    · next indexable =>
      cases parsed : context.parseFile record with
      | error failure => rfl
      | ok file =>
        have named : file.path = path := (path_of_parseFile parsed).1.trans own
        have member : file ∈ context.parsedFiles (Snapshot.diff previous snapshot) := by
          rw [mem_parsedFiles keyed, named]
          exact ⟨record, tracked, changed, indexable, parsed⟩
        have stored := (lastFor_eq_some_iff (parsedFiles_unique keyed)).mpr ⟨member, named⟩
        rw [found] at stored
        cases stored
    · rfl

/-- Dropping and storing what a change set asks for gives the contents of the snapshot. -/
theorem revised_contents (keyed : Keyed snapshot.files)
    (settled : Settled earlier context (Snapshot.filesOf previous) snapshot.files) :
    (Contents.without (earlier.contentAt? (Snapshot.filesOf previous))
      (dropped (Snapshot.diff previous snapshot)
        (context.parsedFiles (Snapshot.diff previous snapshot)))).withFiles
      (context.parsedFiles (Snapshot.diff previous snapshot)) =
      context.contentAt? snapshot.files := by
  funext path
  rw [Contents.withFiles, Contents.without, contentAt?, contentAt?]
  cases tracked : snapshot.files[path]? with
  | none =>
    have absent : path ∉ snapshot.files := by simpa using tracked
    rw [lastFor_parsedFiles_eq_none keyed (by simp [tracked]), Option.map_none, Option.none_or]
    split
    · rfl
    · next kept =>
      -- A path that left without being dropped was not tracked before either.
      have untracked : path ∉ Snapshot.filesOf previous := fun before =>
        kept ((mem_dropped keyed).mpr (.inl ⟨before, absent⟩))
      rw [Std.ExtTreeMap.getElem?_eq_none untracked]
      rfl
  | some new =>
    have present : path ∈ snapshot.files := by simp [Std.ExtTreeMap.mem_iff_isSome_getElem?, tracked]
    rw [Option.bind_some]
    by_cases sort : Snapshot.classify (Snapshot.filesOf previous) path new = .unchanged
    · have kept : path ∉ dropped (Snapshot.diff previous snapshot)
          (context.parsedFiles (Snapshot.diff previous snapshot)) := by
        rw [mem_dropped keyed]
        rintro (⟨-, absent⟩ | ⟨⟨record, found, changed⟩, -⟩)
        · exact absent present
        · rw [tracked] at found
          cases found
          exact changed sort
      have unchanged : ∀ record, snapshot.files[path]? = some record →
          Snapshot.classify (Snapshot.filesOf previous) path record = .unchanged := by
        intro record found
        rw [tracked] at found
        cases found
        exact sort
      rw [lastFor_parsedFiles_eq_none keyed unchanged, Option.map_none, Option.none_or,
        if_neg kept]
      cases before : (Snapshot.filesOf previous)[path]? with
      | none => simp [Snapshot.classify, before] at sort
      | some old => exact settled path old new before tracked sort
    · have parsed : (lastFor ParsedFile.path
          (context.parsedFiles (Snapshot.diff previous snapshot)) path).map ParsedFile.untimed =
          context.contentOf? new := lastFor_parsedFiles keyed tracked sort
      rw [parsed]
      cases content : context.contentOf? new with
      | some file => rfl
      | none =>
        have unparsed : ∀ file ∈ context.parsedFiles (Snapshot.diff previous snapshot),
            file.path ≠ path := by
          intro file member named
          rw [(lastFor_eq_some_iff (parsedFiles_unique keyed)).mpr ⟨member, named⟩, content] at parsed
          cases parsed
        rw [if_pos ((mem_dropped keyed).mpr (.inr ⟨⟨new, tracked, sort⟩, unparsed⟩))]
        rfl

/-! ## The state after a pass -/

/-- The symbols that a pass leaves when it evicts none. -/
theorem symbols_rework {base : IndexState} {changes : ChangeSet} {provider : σ}
    (noneEvicted : (context.rework base snapshot changes provider).evicted = 0) :
    (context.rework base snapshot changes provider).state.symbols =
      (context.parsedFiles changes).foldl
        (fun table file => table.replaceFile file.path file.symbols context.now)
        ((dropped changes (context.parsedFiles changes)).foldl SymbolTable.removeFile
          base.symbols) := by
  refine (MemoryBudget.symbols_enforceFrom (List.eq_nil_of_length_eq_zero noneEvicted)).trans ?_
  rw [symbols_storeFiles, fst_foldl_dropFile]
  rfl

/-- A pass publishes its snapshot. -/
theorem snapshot_apply {base : IndexState} {changes : ChangeSet} {provider : σ} :
    (context.apply base snapshot changes provider).state.snapshot = some snapshot := by
  rw [apply]
  split <;> rfl

/-- The graph is assembled from the contents of the tracked files. -/
def Maps (context : PassContext σ) (files : FileMap FileRecord) (graph : ImportGraph) : Prop :=
  graph.Assembled context.settings.dependencies.resolver
    (fun path => (context.contentAt? files path).map ParsedFile.node) (Snapshot.knownFiles files)

/-- A state holds what the tracked files hold. -/
structure Reflects (context : PassContext σ) (state : IndexState) : Prop where
  keyed : Keyed (Snapshot.filesOf state.snapshot)
  symbols : state.symbols.Stores (context.contentAt? (Snapshot.filesOf state.snapshot))
  graph : context.Maps (Snapshot.filesOf state.snapshot) state.graph

/-- Without a snapshot there is nothing to reflect. -/
theorem reflects_empty (context : PassContext σ) : context.Reflects .empty where
  keyed := keyed_empty
  symbols := by
    have nothing : context.contentAt? (Snapshot.filesOf IndexState.empty.snapshot) =
        fun _ => none := funext fun path => by simp [contentAt?, Snapshot.filesOf, IndexState.empty]
    rw [nothing]
    exact SymbolTable.stores_empty
  graph := by
    constructor
    · intro file
      simp [contentAt?, Snapshot.filesOf, IndexState.empty]
    · refine congrArg ImportGraph.mk (Std.ExtTreeMap.ext_getElem? fun file => ?_)
      simp [IndexState.empty]

/-- What a pass is given: the state that an earlier one left, and a snapshot whose unchanged records
have the contents they had. Only a pass from the empty state counts as full. -/
structure Advances (earlier context : PassContext σ) (base : IndexState) (snapshot : Snapshot) :
    Prop where
  reflects : earlier.Reflects base
  rules : SameRules earlier context
  keyed : Keyed snapshot.files
  colonFree : ∀ path ∈ snapshot.files, ColonFree path
  settled : Settled earlier context (Snapshot.filesOf base.snapshot) snapshot.files
  full : context.incremental = false → base = .empty

namespace Advances

variable {base : IndexState}

/-- From the empty state nothing is called unchanged. -/
theorem fromEmpty (keyed : Keyed snapshot.files)
    (colonFree : ∀ path ∈ snapshot.files, ColonFree path) :
    Advances context context .empty snapshot where
  reflects := reflects_empty context
  rules := ⟨rfl, rfl⟩
  keyed := keyed
  colonFree := colonFree
  settled path old new before := by simp [Snapshot.filesOf, IndexState.empty] at before
  full _ := rfl

/-- Without the dropped files and with the parsed ones, the old contents are the new ones. -/
theorem contents_eq (advances : Advances earlier context base snapshot) :
    (Contents.without (earlier.contentAt? (Snapshot.filesOf base.snapshot))
      (dropped (Snapshot.diff base.snapshot snapshot)
        (context.parsedFiles (Snapshot.diff base.snapshot snapshot)))).withFiles
      (context.parsedFiles (Snapshot.diff base.snapshot snapshot)) =
      context.contentAt? snapshot.files :=
  revised_contents advances.keyed advances.settled

/-- The table that a pass makes before it looks at the budget. -/
theorem stores (advances : Advances earlier context base snapshot) :
    ((context.parsedFiles (Snapshot.diff base.snapshot snapshot)).foldl
      (fun table file => table.replaceFile file.path file.symbols context.now)
      ((dropped (Snapshot.diff base.snapshot snapshot)
        (context.parsedFiles (Snapshot.diff base.snapshot snapshot))).foldl
        SymbolTable.removeFile base.symbols)).Stores (context.contentAt? snapshot.files) := by
  have belong : ∀ file ∈ context.parsedFiles (Snapshot.diff base.snapshot snapshot),
      SymbolTable.BelongTo file.symbols file.path := by
    intro file member
    obtain ⟨record, found, -, -, parsed⟩ := (mem_parsedFiles advances.keyed).mp member
    refine belongTo_of_parseFile parsed (advances.colonFree _ ?_)
    rw [← (path_of_parseFile parsed).1]
    simp [Std.ExtTreeMap.mem_iff_isSome_getElem?, found]
  rw [← advances.contents_eq]
  exact (advances.reflects.symbols.foldl_removeFile _).foldl_replaceFile belong _

/-- The facts that a pass assembles the graph from. -/
theorem revised_eq (advances : Advances earlier context base snapshot) :
    ImportGraph.revised
      (fun path =>
        (earlier.contentAt? (Snapshot.filesOf base.snapshot) path).map ParsedFile.node)
      (dropped (Snapshot.diff base.snapshot snapshot)
        (context.parsedFiles (Snapshot.diff base.snapshot snapshot)))
      ((context.parsedFiles (Snapshot.diff base.snapshot snapshot)).map ParsedFile.node) =
      fun path => (context.contentAt? snapshot.files path).map ParsedFile.node := by
  funext path
  have named : ∀ file ∈ context.parsedFiles (Snapshot.diff base.snapshot snapshot),
      (Graph.Node.file ∘ ParsedFile.node) file = file.path := by
    intro file member
    obtain ⟨record, -, -, -, parsed⟩ := (mem_parsedFiles advances.keyed).mp member
    obtain ⟨path, node⟩ := path_of_parseFile parsed
    exact node.trans path.symm
  rw [← advances.contents_eq, ImportGraph.revised, lastFor_map, lastFor_congr named,
    Contents.withFiles, Option.map_or, Option.map_map, Contents.without]
  split <;> rfl

/-- The next graph maps the files of the snapshot. -/
theorem maps_nextGraph (advances : Advances earlier context base snapshot) :
    context.Maps snapshot.files
      (context.nextGraph base.graph (Snapshot.diff base.snapshot snapshot)
        ((context.parsedFiles (Snapshot.diff base.snapshot snapshot)).map ParsedFile.node)
        (dropped (Snapshot.diff base.snapshot snapshot)
          (context.parsedFiles (Snapshot.diff base.snapshot snapshot)))
        (Snapshot.knownFiles snapshot.files)) := by
  have before := advances.reflects.graph
  rw [Maps, advances.rules.settings] at before
  rw [Maps, nextGraph, ← advances.revised_eq]
  split
  · refine before.update _ _ ?_
    -- Either the file set changed and is said to have, or it is the one of before.
    cases added : (Snapshot.diff base.snapshot snapshot).added with
    | cons => exact .inl rfl
    | nil =>
      cases deleted : (Snapshot.diff base.snapshot snapshot).deleted with
      | cons => exact .inl rfl
      | nil => exact .inr (Snapshot.knownFiles_eq_of_diff added deleted)
  · next full =>
    have start := advances.full (by simpa using full)
    have nothingBefore : ∀ removed nodes,
        ImportGraph.revised
          (fun path =>
            (earlier.contentAt? (Snapshot.filesOf base.snapshot) path).map ParsedFile.node)
          removed nodes = lastFor Graph.Node.file nodes := by
      intro removed nodes
      funext path
      simp [ImportGraph.revised, start, contentAt?, Snapshot.filesOf, IndexState.empty]
    rw [nothingBefore]
    exact ImportGraph.assembled_build _ _ _

/-- An empty change set leaves the contents as they were. -/
theorem contentAt?_eq_of_isEmpty (advances : Advances earlier context base snapshot)
    (noChange : (Snapshot.diff base.snapshot snapshot).isEmpty = true) :
    earlier.contentAt? (Snapshot.filesOf base.snapshot) = context.contentAt? snapshot.files ∧
      Snapshot.knownFiles (Snapshot.filesOf base.snapshot) =
        Snapshot.knownFiles snapshot.files := by
  simp only [ChangeSet.isEmpty, Bool.and_eq_true, List.isEmpty_iff] at noChange
  obtain ⟨⟨added, modified⟩, deleted⟩ := noChange
  have noneParsed : context.parsedFiles (Snapshot.diff base.snapshot snapshot) = [] := by
    simp [parsedFiles, toParse, ChangeSet.upserted, added, modified, splitOutcomes]
  have noneDropped : dropped (Snapshot.diff base.snapshot snapshot) [] = [] := by
    simp [dropped, ChangeSet.upserted, added, modified, deleted]
  have contents := advances.contents_eq
  rw [noneParsed, noneDropped] at contents
  refine ⟨?_, (Snapshot.knownFiles_eq_of_diff added deleted).symm⟩
  rw [← contents]
  funext path
  simp [Contents.withFiles, Contents.without]

/-- The graph after a pass is that of the contents. -/
theorem maps_apply (advances : Advances earlier context base snapshot) (provider : σ) :
    context.Maps snapshot.files
      (context.apply base snapshot (Snapshot.diff base.snapshot snapshot) provider).state.graph := by
  rw [apply]
  split
  · next noChange =>
    have before := advances.reflects.graph
    obtain ⟨contents, known⟩ :=
      advances.contentAt?_eq_of_isEmpty (Bool.and_eq_true_iff.mp noChange).2
    rwa [Maps, advances.rules.settings, contents, known] at before
  · exact advances.maps_nextGraph

/-- The symbols after a pass that evicts nothing are those of the contents. -/
theorem stores_apply (advances : Advances earlier context base snapshot) (provider : σ)
    (noneEvicted : (context.apply base snapshot (Snapshot.diff base.snapshot snapshot)
      provider).evicted = 0) :
    (context.apply base snapshot (Snapshot.diff base.snapshot snapshot)
      provider).state.symbols.Stores (context.contentAt? snapshot.files) := by
  rw [apply] at noneEvicted ⊢
  split
  · next noChange =>
    obtain ⟨contents, -⟩ :=
      advances.contentAt?_eq_of_isEmpty (Bool.and_eq_true_iff.mp noChange).2
    rw [← contents]
    exact advances.reflects.symbols
  · next changed =>
    rw [if_neg changed] at noneEvicted
    rw [symbols_rework noneEvicted]
    exact advances.stores

/-- A pass that evicts nothing reflects its snapshot. -/
theorem reflects_apply (advances : Advances earlier context base snapshot) (provider : σ)
    (noneEvicted : (context.apply base snapshot (Snapshot.diff base.snapshot snapshot)
      provider).evicted = 0) :
    context.Reflects
      (context.apply base snapshot (Snapshot.diff base.snapshot snapshot) provider).state := by
  refine ⟨?_, ?_, ?_⟩
  · rw [snapshot_apply]
    exact advances.keyed
  · rw [snapshot_apply]
    exact advances.stores_apply provider noneEvicted
  · rw [snapshot_apply]
    exact advances.maps_apply provider

end Advances

end PassContext

end SourceAtlas
