import SourceAtlas.Proofs.Graph.Unreachable
import SourceAtlas.Proofs.Index.Accounting
import SourceAtlas.Proofs.Index.Budget

/-!
# The graph of a live index is coherent

`Coherent` is not part of the type of graphs, since a file that is read back may
hold any keys and any dependents. But nobody else writes the file of an index:
passes assemble coherent graphs, and a saved graph comes back with the paths,
the dependencies and the dependents that were written. So every live index
publishes a coherent graph.
-/

namespace SourceAtlas

open JsonValue Graph

/-! ## What is read back -/

/-- The same path and the same edges, in both directions. -/
structure Graph.Node.SameEdges (one other : Node) : Prop where
  file : one.file = other.file
  dependencies : one.dependencies = other.dependencies
  dependents : one.dependents = other.dependents

/-- Whatever becomes of its line numbers, a node that is read back has the edges it had. -/
theorem Graph.Node.sameEdges_of_reread {node read : Node}
    (decoded : ofJson? node.toJson.reread = some read) : node.SameEdges read := by
  rw [ofJson?, toJson, fields?_reread] at decoded
  case named => rfl
  case distinct => decide
  simp only [List.map_cons, List.map_nil, Option.bind_eq_bind, Option.bind_some, requiredField,
    text?_reread, fileSet?_ofTexts, Option.bind_eq_some_iff] at decoded
  obtain ⟨imports, -, exports, -, unresolved, -, same⟩ := decoded
  cases same
  exact ⟨rfl, rfl, rfl⟩

/-- Entries with the same keys and related values make maps that are related key by key. -/
theorem rel_getElem?_fileMapOf {α β : Type} {related : α → β → Prop}
    {entries : List (String × α)} {others : List (String × β)}
    (pairs : List.Forall₂ (fun entry other => other.1 = entry.1 ∧ related entry.2 other.2) entries
      others) (key : String) :
    Option.Rel related (fileMapOf entries)[key]? (fileMapOf others)[key]? := by
  have folded : ∀ (start : FileMap α) (start' : FileMap β),
      Option.Rel related start[key]? start'[key]? →
        Option.Rel related
          (entries.foldl (fun map entry => map.insert entry.1 entry.2) start)[key]?
          (others.foldl (fun map entry => map.insert entry.1 entry.2) start')[key]? := by
    induction pairs with
    | nil => exact fun _ _ start => start
    | cons pair _ inductionHypothesis =>
      intro start start' before
      refine inductionHypothesis _ _ ?_
      rw [Std.ExtTreeMap.getElem?_insert, Std.ExtTreeMap.getElem?_insert, pair.1]
      split
      · exact .some pair.2
      · exact before
  exact folded ∅ ∅ .none

namespace ImportGraph

variable {graph read : ImportGraph}

/-- Two graphs whose nodes have the same paths and edges, file by file. -/
def SameEdges (one other : ImportGraph) : Prop :=
  ∀ file, Option.Rel Node.SameEdges (one.get? file) (other.get? file)

/-- A graph that is read back has the edges that were written. -/
theorem sameEdges_of_reread (decoded : ofJson? graph.toJson.reread = some read) :
    graph.SameEdges read := by
  rw [ofJson?, toJson, fields?_reread] at decoded
  case named => rfl
  case distinct => decide
  simp only [List.map_cons, List.map_nil, Option.bind_eq_bind, Option.bind_some, requiredField,
    Option.bind_eq_some_iff] at decoded
  obtain ⟨entries, decoded, same⟩ := decoded
  cases same
  rw [reread, rereadMembers_eq, map?, List.map_map] at decoded
  have pairs : List.Forall₂ (fun entry other => other.1 = entry.1 ∧
      Node.SameEdges entry.2 other.2) graph.nodes.toList entries := by
    refine (List.forall₂_map_left_iff.mp (forall₂_of_mapM decoded)).imp fun entry other pair => ?_
    obtain ⟨node, readBack, rfl⟩ := Option.map_eq_some_iff.mp pair
    exact ⟨rfl, Node.sameEdges_of_reread readBack⟩
  intro file
  have same := rel_getElem?_fileMapOf pairs file
  rwa [fileMapOf_toList] at same

/-- A graph is coherent when its nodes stand under their own paths and each one lists exactly the
files whose imports lead to it. -/
theorem coherent_iff :
    graph.Coherent ↔ graph.Named ∧ ∀ file node, graph.get? file = some node →
      ∀ source, source ∈ node.dependents ↔ graph.Imports source file := by
  constructor
  · intro coherent
    exact ⟨coherent.named, fun _ _ found _ => coherent.mem_dependents_iff found⟩
  · rintro ⟨named, dependents⟩
    refine ⟨named, congrArg ImportGraph.mk (Std.ExtTreeMap.ext_getElem? fun file => ?_)⟩
    rw [Std.ExtTreeMap.getElem?_map]
    cases found : graph.nodes[file]? with
    | none => rfl
    | some node =>
      have listed : (graph.reverseEdges[file]?).getD ∅ = node.dependents := by
        refine Std.ExtTreeSet.ext_mem fun source => ?_
        rw [dependents file node found]
        exact holds_reverseEdges
      rw [Option.map_some, listed]

/-- Graphs of the same edges have their nodes under the same files. -/
theorem SameEdges.exists_node (same : graph.SameEdges read) {file : String} {node : Node}
    (found : read.get? file = some node) :
    ∃ before, graph.get? file = some before ∧ before.SameEdges node := by
  have both := same file
  rw [found] at both
  cases before : graph.get? file with
  | none =>
    rw [before] at both
    cases both
  | some node =>
    rw [before, Option.rel_some_some] at both
    exact ⟨node, rfl, both⟩

/-- Having the same edges goes both ways. -/
theorem SameEdges.symm (same : graph.SameEdges read) : read.SameEdges graph := by
  intro file
  have both := same file
  generalize graph.get? file = node at both ⊢
  generalize read.get? file = other at both ⊢
  cases both with
  | none => exact .none
  | some edges =>
    exact .some ⟨edges.file.symm, edges.dependencies.symm, edges.dependents.symm⟩

/-- Graphs of the same edges import alike. -/
theorem SameEdges.imports (same : graph.SameEdges read) {source target : String}
    (edge : read.Imports source target) : graph.Imports source target := by
  obtain ⟨node, found, listed, contained⟩ := edge
  obtain ⟨before, foundBefore, edges⟩ := same.exists_node found
  obtain ⟨imported, foundImported⟩ := ImportGraph.exists_node contained
  obtain ⟨importedBefore, there, -⟩ := same.exists_node foundImported
  refine ⟨before, foundBefore, edges.dependencies ▸ listed, ?_⟩
  exact contains_iff_mem.mpr (Std.ExtTreeMap.mem_iff_isSome_getElem?.mpr (by
    rw [show graph.nodes[target]? = some importedBefore from there]
    rfl))

/-- Coherence is a matter of paths and edges. -/
theorem SameEdges.coherent (same : graph.SameEdges read) (coherent : graph.Coherent) :
    read.Coherent := by
  obtain ⟨named, dependents⟩ := coherent_iff.mp coherent
  refine coherent_iff.mpr ⟨fun file node found => ?_, fun file node found source => ?_⟩
  · obtain ⟨before, foundBefore, edges⟩ := same.exists_node found
    exact edges.file.symm.trans (named file before foundBefore)
  · obtain ⟨before, foundBefore, edges⟩ := same.exists_node found
    rw [← edges.dependents, dependents file before foundBefore]
    exact ⟨same.symm.imports, same.imports⟩

end ImportGraph

/-- The graph of a saved index that is read back has the edges that were saved. -/
theorem SavedIndex.sameEdges_of_parse? {saved read : SavedIndex}
    (parsed : parse? saved.render = some read) : saved.graph.SameEdges read.graph := by
  rw [parse?_eq, ofJson?, toJson, fields?_reread] at parsed
  case named => rfl
  case distinct => decide
  simp only [List.map_cons, List.map_nil, Option.bind_eq_bind, Option.bind_some, requiredField,
    optionalField] at parsed
  obtain ⟨index, -, parsed⟩ := Option.bind_eq_some_iff.mp parsed
  split at parsed
  · simp only [Option.bind_eq_some_iff] at parsed
    obtain ⟨snapshot, -, symbols, -, updated, -, graph, decoded, embeddings, -, stats, -, same⟩ :=
      parsed
    cases same
    exact ImportGraph.sameEdges_of_reread decoded
  · cases parsed

/-! ## Live indexes -/

namespace PassContext

variable {σ : Type} {base : IndexState}

/-- A pass assembles a coherent graph, unless it is idle and keeps the one it started from. -/
theorem coherent_apply (coherent : base.graph.Coherent) (context : PassContext σ)
    (snapshot : Snapshot) (changes : ChangeSet) (provider : σ) :
    (context.apply base snapshot changes provider).state.graph.Coherent := by
  rw [apply]
  split
  · exact coherent
  · rw [rework_eq]
    dsimp only
    rw [reworkedGraph, nextGraph]
    split
    · exact ImportGraph.coherent_update _ _ _ _ _ coherent.named
    · exact ImportGraph.coherent_build _ _ _

end PassContext

namespace Index

variable {σ : Type} {index : Index σ}

/-- The graph of a live index is coherent. -/
theorem Lived.coherent (lived : index.Lived) : index.published.graph.Coherent := by
  have blank : IndexState.empty.graph.Coherent := ImportGraph.coherent_ofEdges []
  induction lived with
  | created created =>
    rw [(blank_of_create created).2]
    exact blank
  | opened opened unreadable =>
    obtain ⟨-, found⟩ | ⟨-, published, -⟩ := openSaved_cases opened
    · rw [unreadable] at found
      cases found
    · rw [published]
      exact blank
  | reopened _ _ opened written inductionHypothesis =>
    obtain ⟨-, found⟩ | ⟨-, published, -⟩ := openSaved_cases opened
    · rw [savedState?, written] at found
      obtain ⟨saved, parsed, state⟩ := Option.map_eq_some_iff.mp found
      rw [← state]
      exact (SavedIndex.sameEdges_of_parse? parsed).coherent inductionHypothesis
    · rw [published]
      exact blank
  | @after _ index _ operation inductionHypothesis =>
    cases operation with
    | pass visit =>
      obtain ⟨-, -, same⟩ | ⟨snapshot, -, -, made⟩ := visit.outcome_made index
      · rw [Operation.after, same]
        exact inductionHypothesis
      · rw [Operation.after, made]
        refine PassContext.coherent_apply ?_ _ _ _ _
        exact Visit.holds_base (motive := fun state => state.graph.Coherent) inductionHypothesis
          blank visit
    | save files now => exact inductionHypothesis
    | clear workspace =>
      rw [Operation.after, published_clear]
      exact blank
    | ask query workspace now =>
      obtain ⟨embeddings, after⟩ := query.after_eq index workspace now
      rw [Operation.after, after]
      exact inductionHypothesis

end Index

end SourceAtlas
