import SourceAtlas.Graph.Reach
import SourceAtlas.Proofs.FileMap
import SourceAtlas.Proofs.Graph.Search

/-!
# What entries reach

The search for reachable files keeps a queue. Of every file that has left the
queue all imports are seen (`Explored`), and there are enough rounds to empty it
(`exists_rounds`). So a file is found exactly when a way of imports leads to it
from an entry, and the unreachable files are the other nodes.
-/

namespace SourceAtlas.ImportGraph

open Relation

variable {graph : ImportGraph} {file target : String} {waiting entries : List String}
  {seen : FileSet}

/-- Waiting files are seen, seen files are nodes, and of a seen file that does not wait any more
all imports are seen. -/
structure Explored (graph : ImportGraph) (queue : List String) (seen : FileSet) : Prop where
  waiting : ∀ file ∈ queue, file ∈ seen
  contains : ∀ file ∈ seen, graph.contains file = true
  imports : ∀ file ∈ seen, file ∉ queue → ∀ target, graph.Imports file target → target ∈ seen

/-- The test for unseen files is membership, negated. -/
theorem not_contains_iff : (!seen.contains file) = true ↔ file ∉ seen := by
  rw [Bool.not_eq_true', ← Bool.not_eq_true, Std.ExtTreeSet.contains_iff_mem]

/-- The imports of a file that are not seen yet. -/
def fresh (graph : ImportGraph) (seen : FileSet) (file : String) : List String :=
  (graph.neighbors file).filter fun next => !seen.contains next

/-- The fresh files are the imports that are not seen yet. -/
theorem mem_fresh_iff :
    target ∈ graph.fresh seen file ↔ graph.Imports file target ∧ target ∉ seen := by
  rw [fresh, List.mem_filter, not_contains_iff, mem_neighbors_iff]

/-- No neighbor is listed twice. -/
theorem nodup_neighbors (graph : ImportGraph) (file : String) : (graph.neighbors file).Nodup := by
  rw [neighbors]
  split
  · next node _ =>
    have distinct : node.dependencies.toList.Nodup :=
      Std.ExtTreeSet.distinct_toList.imp fun differ same => differ (by simp [same])
    exact distinct.filter _
  · exact List.nodup_nil

/-- Inserting the fresh files inserts all imports. -/
theorem mem_insertMany_fresh :
    target ∈ seen.insertMany (graph.fresh seen file) ↔
      target ∈ seen ∨ graph.Imports file target := by
  rw [Std.ExtTreeSet.mem_insertMany_list, List.contains_iff_mem, mem_fresh_iff]
  by_cases known : target ∈ seen <;> simp [known]

/-- One round keeps every seen file that no longer waits explored. -/
theorem Explored.round (explored : graph.Explored (file :: waiting) seen) :
    graph.Explored (waiting ++ graph.fresh seen file)
      (seen.insertMany (graph.fresh seen file)) where
  waiting other member := by
    rw [mem_insertMany_fresh]
    rcases List.mem_append.mp member with waits | new
    · exact .inl (explored.waiting other (.tail _ waits))
    · exact .inr (mem_fresh_iff.mp new).1
  contains other member := by
    rcases mem_insertMany_fresh.mp member with known | edge
    · exact explored.contains other known
    · exact edge.contains_target
  imports other member idle target edge := by
    rw [mem_insertMany_fresh]
    have notWaiting : other ∉ waiting := fun waits => idle (List.mem_append_left _ waits)
    by_cases known : other ∈ seen
    · by_cases same : other = file
      · exact .inr (same ▸ edge)
      · exact .inl (explored.imports other known (by simp [same, notWaiting]) target edge)
    · -- A file seen only now waits behind the others.
      have reached := (mem_insertMany_fresh.mp member).resolve_left known
      exact absurd (List.mem_append_right _ (mem_fresh_iff.mpr ⟨reached, known⟩)) idle

/-- The nodes that are not seen yet. -/
def unseen (graph : ImportGraph) (seen : FileSet) : List String :=
  graph.files.filter fun file => !seen.contains file

/-- The unseen files are the nodes that are not seen. -/
theorem mem_unseen_iff :
    file ∈ graph.unseen seen ↔ graph.contains file = true ∧ file ∉ seen := by
  rw [unseen, List.mem_filter, mem_files_iff, not_contains_iff]

/-- Nodes found anew leave those that are not seen yet. -/
theorem length_add_unseen_le {found : List String} {later : FileSet} (nodup : found.Nodup)
    (new : ∀ file ∈ found, graph.contains file = true ∧ file ∉ seen)
    (grown : ∀ file, file ∈ later ↔ file ∈ seen ∨ file ∈ found) :
    found.length + (graph.unseen later).length ≤ (graph.unseen seen).length := by
  have remaining : ∀ {file : String}, file ∈ graph.unseen later →
      file ∉ found ∧ file ∈ graph.unseen seen := by
    intro file left
    obtain ⟨contained, absent⟩ := mem_unseen_iff.mp left
    rw [grown, not_or] at absent
    exact ⟨absent.2, mem_unseen_iff.mpr ⟨contained, absent.1⟩⟩
  have apart : (found ++ graph.unseen later).Nodup := by
    have rest : (graph.unseen later).Nodup := Std.ExtTreeMap.nodup_keys.filter _
    refine List.nodup_append.mpr ⟨nodup, rest, fun first member second left same => ?_⟩
    exact (remaining left).1 (same ▸ member)
  have within : found ++ graph.unseen later ⊆ graph.unseen seen := by
    intro file member
    rcases List.mem_append.mp member with inFound | left
    · exact mem_unseen_iff.mpr (new file inFound)
    · exact (remaining left).2
  rw [← List.length_append]
  exact (List.Nodup.subperm apart within).length_le

/-- A round lowers what is left to do: of the files that wait and those not seen yet, one is
closed. -/
theorem length_round_le (graph : ImportGraph) (file : String) (waiting : List String)
    (seen : FileSet) :
    (waiting ++ graph.fresh seen file).length +
        (graph.unseen (seen.insertMany (graph.fresh seen file))).length ≤
      waiting.length + (graph.unseen seen).length := by
  have shrinks : (graph.fresh seen file).length +
      (graph.unseen (seen.insertMany (graph.fresh seen file))).length ≤
        (graph.unseen seen).length := by
    refine length_add_unseen_le ((nodup_neighbors graph file).filter _) ?_ ?_
    · intro next new
      obtain ⟨edge, absent⟩ := mem_fresh_iff.mp new
      exact ⟨edge.contains_target, absent⟩
    · simp [Std.ExtTreeSet.mem_insertMany_list]
  rw [List.length_append]
  omega

/-- With a round for each waiting file and for each node not seen yet, everything is found that
the seen files lead to. -/
theorem mem_reachFrom_iff {fuel : Nat} (explored : graph.Explored waiting seen)
    (enough : waiting.length + (graph.unseen seen).length ≤ fuel) :
    file ∈ graph.reachFrom fuel waiting seen ↔
      ∃ start ∈ seen, ReflTransGen graph.Imports start file := by
  have settled {seen : FileSet} (explored : graph.Explored [] seen) :
      file ∈ seen ↔ ∃ start ∈ seen, ReflTransGen graph.Imports start file := by
    refine ⟨fun known => ⟨file, known, .refl⟩, ?_⟩
    rintro ⟨start, known, walk⟩
    induction walk with
    | refl => exact known
    | tail _ edge inductionHypothesis =>
      exact explored.imports _ inductionHypothesis List.not_mem_nil _ edge
  induction fuel generalizing waiting seen with
  | zero =>
    have none : waiting = [] := List.eq_nil_of_length_eq_zero (by omega)
    subst none
    exact settled explored
  | succ fuel inductionHypothesis =>
    cases waiting with
    | nil => exact settled explored
    | cons first rest =>
      have lower := graph.length_round_le first rest seen
      rw [List.length_cons] at enough
      refine (inductionHypothesis explored.round (by omega)).trans ⟨?_, ?_⟩
      · rintro ⟨start, known, walk⟩
        rcases mem_insertMany_fresh.mp known with known | edge
        · exact ⟨start, known, walk⟩
        · exact ⟨first, explored.waiting first (.head _), .head edge walk⟩
      · rintro ⟨start, known, walk⟩
        exact ⟨start, mem_insertMany_fresh.mpr (.inl known), walk⟩

/-- What the search works on: the files that wait and the files seen so far. -/
structure Frontier where
  waiting : List String
  seen : FileSet

/-- One round takes the first waiting file; its new imports wait behind the others. With none
waiting nothing is left to do. -/
def round (graph : ImportGraph) : Frontier → Frontier
  | ⟨[], seen⟩ => ⟨[], seen⟩
  | ⟨file :: waiting, seen⟩ =>
    ⟨waiting ++ graph.fresh seen file, seen.insertMany (graph.fresh seen file)⟩

/-- The search ends: after some rounds no file waits, and what is seen then is the result. -/
theorem exists_rounds {fuel : Nat} (enough : waiting.length + (graph.unseen seen).length ≤ fuel) :
    ∃ rounds ≤ fuel, graph.round^[rounds] ⟨waiting, seen⟩ =
      ⟨[], graph.reachFrom fuel waiting seen⟩ := by
  induction fuel generalizing waiting seen with
  | zero =>
    have none : waiting = [] := List.eq_nil_of_length_eq_zero (by omega)
    subst none
    exact ⟨0, Nat.le_refl 0, rfl⟩
  | succ fuel inductionHypothesis =>
    cases waiting with
    | nil => exact ⟨0, Nat.zero_le _, rfl⟩
    | cons first rest =>
      have lower := graph.length_round_le first rest seen
      rw [List.length_cons] at enough
      obtain ⟨rounds, few, done⟩ := inductionHypothesis (Nat.le_trans lower (by omega))
      refine ⟨rounds + 1, Nat.succ_le_succ few, ?_⟩
      rw [Function.iterate_succ_apply]
      exact done

/-- Without its duplicates a list repeats nothing. -/
theorem nodup_eraseDups (files : List String) : files.eraseDups.Nodup := by
  cases files with
  | nil => exact List.nodup_nil
  | cons first rest =>
    rw [List.eraseDups_cons]
    refine List.nodup_cons.mpr ⟨?_, nodup_eraseDups _⟩
    simp [List.mem_eraseDups]
termination_by files.length
decreasing_by exact Nat.lt_succ_of_le (List.length_filter_le ..)

/-- A way of imports leads to the file from an entry that is a node. -/
def ReachedFrom (graph : ImportGraph) (entries : List String) (file : String) : Prop :=
  ∃ entry ∈ entries, graph.contains entry = true ∧ ReflTransGen graph.Imports entry file

/-- The search starts from the entries that are nodes, each once. -/
def entered (graph : ImportGraph) (entries : List String) : Frontier where
  waiting := (entries.filter graph.contains).eraseDups
  seen := .ofList (entries.filter graph.contains).eraseDups compare

/-- The entries that wait at first are those with a node. -/
theorem mem_waiting_entered_iff :
    file ∈ (graph.entered entries).waiting ↔ file ∈ entries ∧ graph.contains file = true := by
  simp [entered, List.mem_eraseDups]

/-- What is seen at first is what waits. -/
theorem mem_seen_entered_iff :
    file ∈ (graph.entered entries).seen ↔ file ∈ (graph.entered entries).waiting := by
  simp [entered, Std.ExtTreeSet.mem_ofList]

/-- At the start every seen file waits. -/
theorem explored_entered (graph : ImportGraph) (entries : List String) :
    graph.Explored (graph.entered entries).waiting (graph.entered entries).seen where
  waiting _ member := mem_seen_entered_iff.mpr member
  contains _ member := (mem_waiting_entered_iff.mp (mem_seen_entered_iff.mp member)).2
  imports _ member idle := absurd (mem_seen_entered_iff.mp member) idle

/-- There is a round for every file that the search can meet. -/
theorem length_entered_le (graph : ImportGraph) (entries : List String) :
    (graph.entered entries).waiting.length +
      (graph.unseen (graph.entered entries).seen).length ≤ graph.size := by
  have allUnseen : graph.unseen ∅ = graph.files :=
    List.filter_eq_self.mpr fun file _ => by simp
  have nodes : graph.files.length = graph.size := Std.ExtTreeMap.length_keys
  rw [← nodes, ← allUnseen]
  refine length_add_unseen_le (nodup_eraseDups _) ?_ fun other => by simp [mem_seen_entered_iff]
  exact fun other member => ⟨(mem_waiting_entered_iff.mp member).2, Std.ExtTreeSet.not_mem_empty⟩

/-- What is found to be reachable is what is reached from the entries. -/
theorem mem_reachable_iff : file ∈ graph.reachable entries ↔ graph.ReachedFrom entries file := by
  have found : file ∈ graph.reachable entries ↔ _ :=
    mem_reachFrom_iff (graph.explored_entered entries) (graph.length_entered_le entries)
  rw [found, ReachedFrom]
  constructor
  · rintro ⟨start, known, walk⟩
    obtain ⟨listed, contained⟩ := mem_waiting_entered_iff.mp (mem_seen_entered_iff.mp known)
    exact ⟨start, listed, contained, walk⟩
  · rintro ⟨entry, listed, contained, walk⟩
    exact ⟨entry, mem_seen_entered_iff.mpr (mem_waiting_entered_iff.mpr ⟨listed, contained⟩), walk⟩

/-- The files reported as unreachable are the nodes that no entry leads to. -/
theorem mem_unreachable_iff :
    file ∈ graph.unreachable entries ↔
      graph.contains file = true ∧ ¬ graph.ReachedFrom entries file := by
  rw [unreachable, List.mem_filter, mem_files_iff, not_contains_iff, mem_reachable_iff]

/-- What some entries reach is reached from all entries that have their nodes. -/
theorem ReachedFrom.mono {more : List String} (reached : graph.ReachedFrom entries file)
    (kept : ∀ entry ∈ entries, graph.contains entry = true → entry ∈ more) :
    graph.ReachedFrom more file := by
  obtain ⟨entry, listed, contained, walk⟩ := reached
  exact ⟨entry, kept entry listed contained, contained, walk⟩

/-- The search for what entries reach ends, and the unreachable files are, in strict order, exactly
the nodes to which no way of imports leads from an entry that is a node. Only the set of those
entries counts, and with more entries no file becomes unreachable. -/
theorem unreachable_exact (graph : ImportGraph) (entries : List String) :
    (∃ rounds ≤ graph.size, graph.round^[rounds] (graph.entered entries) =
      ⟨[], graph.reachable entries⟩) ∧
    (graph.unreachable entries).Pairwise (· < ·) ∧
    (∀ file, file ∈ graph.unreachable entries ↔ graph.contains file = true ∧
      ¬ ∃ entry ∈ entries, graph.contains entry = true ∧
        ReflTransGen graph.Imports entry file) ∧
    (∀ others : List String,
      (∀ entry, graph.contains entry = true → (entry ∈ others ↔ entry ∈ entries)) →
        graph.unreachable others = graph.unreachable entries) ∧
    ∀ more : List String, entries ⊆ more → graph.unreachable more ⊆ graph.unreachable entries := by
  refine ⟨exists_rounds (graph.length_entered_le entries), (FileMap.ordered_keys graph.nodes).filter _,
    fun file => mem_unreachable_iff, fun others same => ?_, fun more grown file left => ?_⟩
  · have reached (file : String) : graph.ReachedFrom others file ↔ graph.ReachedFrom entries file :=
      ⟨fun found => found.mono fun entry listed contained => (same entry contained).mp listed,
        fun found => found.mono fun entry listed contained => (same entry contained).mpr listed⟩
    refine List.filter_congr fun file _ => ?_
    rw [Bool.eq_iff_iff, not_contains_iff, not_contains_iff, mem_reachable_iff, mem_reachable_iff,
      reached]
  · obtain ⟨contained, unreached⟩ := mem_unreachable_iff.mp left
    refine mem_unreachable_iff.mpr ⟨contained, fun reached => unreached ?_⟩
    exact reached.mono fun entry listed _ => grown listed

end SourceAtlas.ImportGraph
