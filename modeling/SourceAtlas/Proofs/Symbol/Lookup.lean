import Mathlib.Data.List.Dedup
import Mathlib.Data.List.Perm.Subperm
import SourceAtlas.Number.Total
import SourceAtlas.Proofs.FileMap
import SourceAtlas.Proofs.Ranking
import SourceAtlas.Proofs.Symbol.Table

/-!
# What the look-ups of an indexed table answer

A look-up map that projects the symbols lists, under each key, the identifiers
of the symbols with that key, in their order. So the look-ups of an indexed
table select from the list of all symbols, and its figures count that list.
-/

namespace SourceAtlas

/-- Absent counts add nothing. -/
theorem total_filterMap {α : Type} (count : α → Option Nat) (items : List α) :
    total (items.filterMap count) = total (items.map fun item => (count item).getD 0) := by
  induction items with
  | nil => rfl
  | cons first rest inductionHypothesis =>
    cases counted : count first <;> simp [counted, total, inductionHypothesis]

/-- Kinds have different labels. -/
theorem SymbolKind.label_inj {first second : SymbolKind} :
    first.label = second.label ↔ first = second := by
  refine ⟨fun same => ?_, congrArg label⟩
  have read := ofLabel?_label first
  rw [same, ofLabel?_label] at read
  exact (Option.some.inj read).symm

/-- Every symbol is counted under one kind. -/
theorem total_ofKind (symbols : List Symbol) :
    total (SymbolKind.all.map fun kind =>
      (symbols.filter fun symbol => symbol.kind = kind).length) = symbols.length := by
  induction symbols with
  | nil => rfl
  | cons first rest inductionHypothesis =>
    rw [List.length_cons, ← inductionHypothesis]
    cases kind : first.kind <;>
      simp [SymbolKind.all, total, List.filter_cons, kind] <;> omega

namespace Buckets.Projects

variable {buckets : Buckets} {symbols : FileMap Symbol} {keyOf : Symbol → String} {key : String}

/-- The identifiers under a key are those of the symbols with that key, in order. -/
theorem ids_eq (projects : buckets.Projects symbols keyOf) (key : String) :
    buckets.ids key = (symbols.toList.filter fun entry => keyOf entry.2 = key).map Prod.fst := by
  refine eq_of_ordered Std.ExtTreeSet.ordered_toList ?_ fun id => ?_
  · rw [List.pairwise_map]
    exact Std.ExtTreeMap.ordered_keys_toList.filter _
  · rw [mem_ids_iff, projects.holds_iff]
    simp [Std.ExtTreeMap.mem_toList_iff_getElem?_eq_some]

/-- Looking up the identifiers under a key selects the symbols with that key. -/
theorem lookup_ids (projects : buckets.Projects symbols keyOf) (key : String) :
    ((buckets.ids key).filterMap fun id => symbols[id]?) =
      symbols.values.filter fun symbol => keyOf symbol = key := by
  have found : ∀ entry ∈ symbols.toList.filter (fun entry => keyOf entry.2 = key),
      symbols[entry.1]? = some entry.2 := by
    intro entry member
    exact Std.ExtTreeMap.mem_toList_iff_getElem?_eq_some.mp (List.mem_filter.mp member).1
  rw [projects.ids_eq, FileMap.values_eq, List.filter_map, List.filterMap_map]
  exact (List.filterMap_congr found).trans (congrFun List.filterMap_eq_map' _)

/-- The set under a key has a member for each symbol with that key. -/
theorem size_eq (projects : buckets.Projects symbols keyOf) (key : String) :
    ((buckets[key]?).getD ∅).size =
      (symbols.values.filter fun symbol => keyOf symbol = key).length := by
  have counted := congrArg List.length (projects.ids_eq key)
  rw [Buckets.ids, Std.ExtTreeSet.length_toList] at counted
  rw [counted, FileMap.values_eq, List.filter_map, List.length_map, List.length_map]
  rfl

/-- A key is in use exactly when a symbol has it. -/
theorem mem_iff (projects : buckets.Projects symbols keyOf) :
    key ∈ buckets ↔ key ∈ symbols.values.map keyOf := by
  rw [Std.ExtTreeMap.mem_iff_isSome_getElem?, List.mem_map]
  constructor
  · intro used
    obtain ⟨ids, held⟩ := Option.isSome_iff_exists.mp used
    have occupied : ids ≠ ∅ := fun vacant => projects.tidy key (vacant ▸ held)
    obtain ⟨id, member⟩ : ∃ id, id ∈ ids := by
      by_contra none
      exact occupied (Std.ExtTreeSet.ext_mem fun id => by simpa using fun member => none ⟨id, member⟩)
    have holds : buckets.Holds key id := by rwa [Holds, held]
    obtain ⟨symbol, stored, own⟩ := projects.holds_iff.mp holds
    exact ⟨symbol, FileMap.mem_values_iff.mpr ⟨id, stored⟩, own⟩
  · rintro ⟨symbol, member, own⟩
    obtain ⟨id, stored⟩ := FileMap.mem_values_iff.mp member
    have holds : buckets.Holds key id := projects.holds_iff.mpr ⟨symbol, stored, own⟩
    rw [Holds] at holds
    cases held : buckets[key]? with
    | none => simp [held] at holds
    | some ids => rfl

end Buckets.Projects

namespace SymbolTable.Indexed

variable {table : SymbolTable} {symbol : Symbol} {file : String}

/-- The symbols of a name are filtered from the whole table. -/
theorem named_eq (indexed : table.Indexed) (name : String) :
    table.named name = table.toList.filter fun symbol => symbol.name = name :=
  indexed.names.lookup_ids name

/-- The symbols of a kind are filtered from the whole table. -/
theorem ofKind_eq (indexed : table.Indexed) (kind : SymbolKind) :
    table.ofKind kind = table.toList.filter fun symbol => symbol.kind = kind := by
  have labelled := indexed.kinds.lookup_ids kind.label
  simp only [SymbolKind.label_inj] at labelled
  exact labelled

/-- The symbols of a file are filtered from the whole table and sorted by line. -/
theorem inFile_eq (indexed : table.Indexed) (file : String) :
    table.inFile file = (table.toList.filter fun symbol => symbol.file = file).mergeSort lineOrder :=
  congrArg (List.mergeSort · lineOrder) (indexed.files.lookup_ids file)

/-- The identifiers listed for a file are those of its symbols. -/
theorem idsOfFile_eq (indexed : table.Indexed) (file : String) :
    table.idsOfFile file =
      (table.toList.filter fun symbol => symbol.file = file).map Symbol.id := by
  have named : ∀ entry ∈ table.symbols.toList.filter (fun entry => entry.2.file = file),
      entry.1 = entry.2.id := by
    intro entry member
    have stored := Std.ExtTreeMap.mem_toList_iff_getElem?_eq_some.mp (List.mem_filter.mp member).1
    exact (indexed.keyed stored).symm
  rw [idsOfFile, indexed.files.ids_eq, toList, FileMap.values_eq, List.filter_map, List.map_map]
  exact List.map_congr_left named

/-- The listed symbols are those stored under their own ids. -/
theorem mem_toList_iff (indexed : table.Indexed) :
    symbol ∈ table.toList ↔ table.symbols[symbol.id]? = some symbol :=
  FileMap.mem_values_iff_of_keyed fun _ _ stored => indexed.keyed stored

/-- The symbols of a file are the stored ones that carry it. -/
theorem mem_inFile_iff (indexed : table.Indexed) :
    symbol ∈ table.inFile file ↔ table.symbols[symbol.id]? = some symbol ∧ symbol.file = file := by
  rw [indexed.inFile_eq, List.mem_mergeSort, List.mem_filter, indexed.mem_toList_iff,
    decide_eq_true_iff]

/-- Listed symbols have different identifiers. -/
theorem nodup_ids_toList (indexed : table.Indexed) : (table.toList.map Symbol.id).Nodup := by
  rw [toList, FileMap.map_values_eq_keys fun _ _ stored => indexed.keyed stored]
  exact Std.ExtTreeMap.nodup_keys

/-- No symbol is listed twice. -/
theorem nodup_toList (indexed : table.Indexed) : table.toList.Nodup :=
  FileMap.nodup_values fun _ _ stored => indexed.keyed stored

/-- No file has a symbol twice. -/
theorem nodup_inFile (indexed : table.Indexed) (file : String) : (table.inFile file).Nodup := by
  rw [indexed.inFile_eq]
  exact (List.mergeSort_perm _ _).nodup_iff.mpr (indexed.nodup_toList.filter _)

/-- The figures by kind count every symbol once. -/
theorem total_byKind (indexed : table.Indexed) :
    total (table.stats.byKind.map Prod.snd) = table.stats.symbolCount := by
  have counted : ∀ kind : SymbolKind,
      ((table.byKind[kind.label]?).map Std.ExtTreeSet.size).getD 0 =
        (table.toList.filter fun symbol => symbol.kind = kind).length := by
    intro kind
    have size := indexed.kinds.size_eq kind.label
    simp only [SymbolKind.label_inj] at size
    rw [toList, ← size]
    cases table.byKind[kind.label]? <;> rfl
  calc total (table.stats.byKind.map Prod.snd)
      = total (SymbolKind.all.filterMap fun kind =>
          (table.byKind[kind.label]?).map Std.ExtTreeSet.size) := by
        simp only [stats, List.map_filterMap, Option.map_map, Function.comp_def]
    _ = total (SymbolKind.all.map fun kind =>
          (table.toList.filter fun symbol => symbol.kind = kind).length) := by
        simp only [total_filterMap, counted]
    _ = table.toList.length := total_ofKind table.toList
    _ = table.stats.symbolCount := by
        rw [toList, FileMap.values_eq, List.length_map, Std.ExtTreeMap.length_toList]
        rfl

/-- The files counted are the distinct files of the symbols. -/
theorem fileCount_eq (indexed : table.Indexed) :
    table.fileCount = (table.toList.map Symbol.file).dedup.length := by
  have listed : table.byFile.keys.Perm (table.toList.map Symbol.file).dedup := by
    refine (List.perm_ext_iff_of_nodup Std.ExtTreeMap.nodup_keys (List.nodup_dedup _)).mpr ?_
    intro file
    rw [Std.ExtTreeMap.mem_keys, indexed.files.mem_iff, List.mem_dedup]
    rfl
  rw [← listed.length_eq, Std.ExtTreeMap.length_keys]
  rfl

end SymbolTable.Indexed

end SourceAtlas
