import SourceAtlas.Proofs.Graph.Unreachable
import SourceAtlas.Proofs.Index.Lifecycle

/-!
# From where reachability is asked

The two queries for unreachable files read the given entries twice. The index
takes the keys of the entries and infers entries only when none are given; the
analysis of the graph infers entries again when it is handed no key. So the
queries agree except on entries of which none has a key: there the list starts
from nowhere, and the analysis from what the graph suggests.
-/

namespace SourceAtlas

open Relation

namespace ImportGraph

variable {graph : ImportGraph} {file : String} {entries : List String}

/-- Without entries no file is reached. -/
theorem mem_unreachable_nil_iff : file ∈ graph.unreachable [] ↔ file ∈ graph.files := by
  rw [mem_unreachable_iff, mem_files_iff]
  simp [ReachedFrom]

/-- Entries are as good as none exactly when none of them is a node. -/
theorem unreachable_eq_unreachable_nil_iff :
    graph.unreachable entries = graph.unreachable [] ↔
      ∀ entry ∈ entries, graph.contains entry = false := by
  constructor
  · intro same entry listed
    refine Bool.eq_false_iff.mpr fun contained => ?_
    have left : entry ∈ graph.unreachable [] :=
      mem_unreachable_nil_iff.mpr (mem_files_iff.mpr contained)
    rw [← same] at left
    exact (mem_unreachable_iff.mp left).2 ⟨entry, listed, contained, .refl⟩
  · intro absent
    have none : entries.filter graph.contains = [] :=
      List.filter_eq_nil_iff.mpr fun entry listed => by simp [absent entry listed]
    simp only [unreachable, reachable, none, List.filter_nil]

/-- An analysis lists what the given entries leave out, unless there are none and it infers some. -/
theorem unreachable_analyze_eq_iff :
    (graph.analyze entries).unreachable = graph.unreachable entries ↔
      entries ≠ [] ∨ ∀ entry ∈ graph.inferredEntries, graph.contains entry = false := by
  cases entries with
  | nil =>
    have inferred : (graph.analyze []).unreachable = graph.unreachable graph.inferredEntries := rfl
    rw [inferred, unreachable_eq_unreachable_nil_iff]
    simp
  | cons first rest => exact iff_of_true rfl (.inl (List.cons_ne_nil first rest))

end ImportGraph

namespace Index

variable {σ : Type} {index : Index σ} {files : FileSystem} {entries : List String}

/-- A query for unreachable files starts at the keys of the entries it is given, and at the entries
that the graph suggests when it is given none. -/
def StartsAt (index : Index σ) (files : FileSystem) (entries : List String) (file : String) :
    Prop :=
  (entries = [] ∧ file ∈ index.published.graph.inferredEntries) ∨
    ∃ entry ∈ entries, index.keyOf? files entry = some file

/-- The keys of the given entries are the files that a start is made at. -/
theorem mem_entryKeys_iff {file : String} :
    file ∈ index.entryKeys files index.published.graph entries ↔
      index.StartsAt files entries file := by
  rw [entryKeys, StartsAt]
  cases entries with
  | nil => simp
  | cons first rest => simp

/-- Given entries come to nothing exactly if none of them has a key. -/
theorem entryKeys_eq_nil_iff (given : entries ≠ []) :
    index.entryKeys files index.published.graph entries = [] ↔
      ∀ entry ∈ entries, index.keyOf? files entry = none := by
  rw [entryKeys, if_neg (by simpa using given), List.filterMap_eq_nil_iff]

/-- A ready index hands its published state to a query. -/
theorem readyState_of_ready (ready : index.phase = .ready) (operation : String) :
    index.readyState operation = .ok index.published := by
  rw [readyState, ready]
  rfl

/-- The two queries agree when no entries are given, when some entry has a key, or when the graph
suggests no node. -/
theorem unreachable_analyze_entryKeys_iff :
    (index.published.graph.analyze
        (index.entryKeys files index.published.graph entries)).unreachable =
      index.published.graph.unreachable (index.entryKeys files index.published.graph entries) ↔
    entries = [] ∨ (∃ entry ∈ entries, (index.keyOf? files entry).isSome = true) ∨
      ∀ entry ∈ index.published.graph.inferredEntries,
        index.published.graph.contains entry = false := by
  rw [ImportGraph.unreachable_analyze_eq_iff]
  by_cases given : entries = []
  · -- The suggested entries are handed on; without any, the graph suggests none again.
    subst given
    refine iff_of_true ?_ (.inl rfl)
    by_cases suggests : index.published.graph.inferredEntries = []
    · exact .inr (by simp [suggests])
    · exact .inl suggests
  · have keyed : index.entryKeys files index.published.graph entries ≠ [] ↔
        ∃ entry ∈ entries, (index.keyOf? files entry).isSome = true := by
      rw [ne_eq, entryKeys_eq_nil_iff given]
      simp [Option.isSome_iff_ne_none]
    rw [keyed]
    simp [given]

/-- Every ready index answers both queries for unreachable files. The list has the nodes that no
start leads to, and the analysis counts what it lists. The two list the same files exactly when no
entries are given, when some entry has a key, or when the graph suggests no node as an entry. -/
theorem unreachable_agrees_iff (ready : index.phase = .ready) (files : FileSystem)
    (entries : List String) :
    ∃ listed analysis,
      index.unreachable files entries = .ok listed ∧
      index.analyze files entries = .ok analysis ∧
      (∀ file, file ∈ listed ↔ index.published.graph.contains file = true ∧
        ¬ ∃ start, index.StartsAt files entries start ∧
          index.published.graph.contains start = true ∧
          ReflTransGen index.published.graph.Imports start file) ∧
      analysis.statistics.unreachableCount = analysis.unreachable.length ∧
      (analysis.unreachable = listed ↔
        entries = [] ∨ (∃ entry ∈ entries, (index.keyOf? files entry).isSome = true) ∨
          ∀ entry ∈ index.published.graph.inferredEntries,
            index.published.graph.contains entry = false) := by
  have listed : index.unreachable files entries = .ok (index.published.graph.unreachable
      (index.entryKeys files index.published.graph entries)) := by
    rw [Index.unreachable, readyState_of_ready ready]
    rfl
  have analyzed : index.analyze files entries = .ok (index.published.graph.analyze
      (index.entryKeys files index.published.graph entries)) := by
    rw [Index.analyze, readyState_of_ready ready]
    rfl
  refine ⟨_, _, listed, analyzed, fun file => ?_, rfl, unreachable_analyze_entryKeys_iff⟩
  rw [ImportGraph.mem_unreachable_iff, ImportGraph.ReachedFrom]
  simp only [mem_entryKeys_iff]

/-- Beside an entry outside the root, one with a key is enough. -/
theorem builtIndex_unreachable_agrees :
    builtIndex.phase = .ready ∧
      ∃ listed analysis,
        builtIndex.unreachable (editedProject "f" 0) ["../x.ts", "./b.ts"] = .ok listed ∧
        builtIndex.analyze (editedProject "f" 0) ["../x.ts", "./b.ts"] = .ok analysis ∧
        listed = ["a.ts"] ∧ analysis.unreachable = ["a.ts"] ∧
        analysis.statistics.unreachableCount = 1 := by
  have ready : builtIndex.phase = .ready := by decide +kernel
  obtain ⟨listed, analysis, answered, analyzed, -, counted, agrees⟩ :=
    unreachable_agrees_iff ready (editedProject "f" 0) ["../x.ts", "./b.ts"]
  have files : builtIndex.unreachable (editedProject "f" 0) ["../x.ts", "./b.ts"] =
      .ok ["a.ts"] := eq_ok_of_toOption (by decide +kernel)
  obtain rfl : ["a.ts"] = listed := Except.ok.inj (files.symm.trans answered)
  have same := agrees.mpr (.inr (.inl ⟨"./b.ts", by simp, by decide +kernel⟩))
  exact ⟨ready, _, analysis, answered, analyzed, rfl, same, by rw [counted, same]; rfl⟩

/-- Of a lone entry outside the root the list says that it reaches nothing; the analysis leaves it
out of account and lists no file at all. -/
theorem builtIndex_unreachable_disagrees :
    builtIndex.phase = .ready ∧
      builtIndex.unreachable (editedProject "f" 0) ["../x.ts"] = .ok ["a.ts", "b.ts"] ∧
      ∃ analysis, builtIndex.analyze (editedProject "f" 0) ["../x.ts"] = .ok analysis ∧
        analysis.unreachable = [] ∧ analysis.statistics.unreachableCount = 0 := by
  refine ⟨by decide +kernel, eq_ok_of_toOption (by decide +kernel), ?_⟩
  obtain ⟨analysis, analyzed, holds⟩ := exists_ok_of_any (show
    (builtIndex.analyze (editedProject "f" 0) ["../x.ts"]).toOption.any (fun analysis =>
      analysis.unreachable.isEmpty && analysis.statistics.unreachableCount == 0) = true by
        decide +kernel)
  simp only [Bool.and_eq_true, List.isEmpty_iff, beq_iff_eq] at holds
  exact ⟨analysis, analyzed, holds⟩

end Index

end SourceAtlas
