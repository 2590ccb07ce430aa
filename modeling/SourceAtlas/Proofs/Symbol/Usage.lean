import SourceAtlas.Proofs.Symbol.Edits
import SourceAtlas.Proofs.Symbol.Lookup
import SourceAtlas.Proofs.Symbol.Occurrence

/-!
# What a usage scan reports

A scan reads the files of its scope line by line and reports each place at which
the name stands as a whole identifier (`Recorded`), in the order of file, line
and column. The narrow scope reports what the wide one reports for the files
that define the name.
-/

namespace SourceAtlas

namespace Usage

variable {file name text : String} {definitionLines : List Nat} {usage : Usage}

/-- Where a usage stands. -/
def place (usage : Usage) : String × Nat × Nat := (usage.file, usage.line, usage.column)

/-- The order of files, then lines, then columns. -/
def Precedes (first second : Usage) : Prop :=
  Prod.Lex (· < ·) (Prod.Lex (· < ·) (· < ·)) first.place second.place

/-- Usages of a line carry its file and its number. -/
theorem place_of_mem_onLine {number : Nat} {line : String}
    (member : usage ∈ onLine file name definitionLines number line) :
    usage.file = file ∧ usage.line = number := by
  obtain ⟨_, -, rfl⟩ := List.mem_map.mp member
  exact ⟨rfl, rfl⟩

/-- The usages of a line come in order. -/
theorem ordered_onLine (file name : String) (definitionLines : List Nat) (number : Nat)
    (line : String) : (onLine file name definitionLines number line).Pairwise Precedes := by
  rw [onLine, List.pairwise_map]
  refine (ordered_occurrences name line).imp fun {first second} left => ?_
  exact .right file (.right number (Nat.succ_lt_succ left))

/-- The usages in a text are those on its lines. -/
theorem mem_inText_iff :
    usage ∈ inText file name definitionLines text ↔
      ∃ index line, (Text.lines text)[index]? = some line ∧
        usage ∈ onLine file name definitionLines (index + 1) line := by
  rw [inText, List.mem_flatten]
  constructor
  · rintro ⟨part, listed, member⟩
    obtain ⟨index, bound, rfl⟩ := List.mem_mapIdx.mp listed
    exact ⟨index, _, List.getElem?_eq_getElem bound, member⟩
  · rintro ⟨index, line, found, member⟩
    obtain ⟨bound, rfl⟩ := List.getElem?_eq_some_iff.mp found
    exact ⟨_, List.mem_mapIdx.mpr ⟨index, bound, rfl⟩, member⟩

/-- Usages of a text carry its file. -/
theorem file_of_mem_inText (member : usage ∈ inText file name definitionLines text) :
    usage.file = file := by
  obtain ⟨index, line, -, shown⟩ := mem_inText_iff.mp member
  exact (place_of_mem_onLine shown).1

/-- The usages of a text come in order. -/
theorem ordered_inText (file name : String) (definitionLines : List Nat) (text : String) :
    (inText file name definitionLines text).Pairwise Precedes := by
  rw [inText, List.pairwise_flatten]
  constructor
  · intro part listed
    obtain ⟨index, bound, rfl⟩ := List.mem_mapIdx.mp listed
    exact ordered_onLine file name definitionLines (index + 1) _
  · rw [List.pairwise_iff_getElem]
    intro index other bound bound' below first member second member'
    rw [List.getElem_mapIdx] at member member'
    obtain ⟨file, line⟩ := place_of_mem_onLine member
    obtain ⟨file', line'⟩ := place_of_mem_onLine member'
    rw [Precedes, place, place, file, file', line, line']
    exact .right _ (.left _ _ (Nat.succ_lt_succ below))

end Usage

namespace SymbolTable

open Usage

variable {table : SymbolTable} {name file : String} {scope : UsageScope}
  {read : String → Option String} {usage : Usage}

/-! ## The files of a scope -/

/-- A file has a symbol of that name. -/
def Defines (table : SymbolTable) (name file : String) : Prop :=
  ∃ symbol ∈ table.toList, symbol.name = name ∧ symbol.file = file

/-- A file has a symbol of that name that starts on that line. -/
def DefinesOn (table : SymbolTable) (name file : String) (line : Nat) : Prop :=
  ∃ symbol ∈ table.toList, symbol.name = name ∧ symbol.file = file ∧ symbol.startLine = line

instance (table : SymbolTable) (name file : String) : Decidable (table.Defines name file) :=
  inferInstanceAs (Decidable (∃ symbol ∈ table.toList, _))

instance (table : SymbolTable) (name file : String) (line : Nat) :
    Decidable (table.DefinesOn name file line) :=
  inferInstanceAs (Decidable (∃ symbol ∈ table.toList, _))

/-- A file belongs to a scope: it defines the name, or it has any symbol at all. -/
def Scanned (table : SymbolTable) (name : String) : UsageScope → String → Prop
  | .definingFiles, file => table.Defines name file
  | .allFiles, file => ∃ symbol ∈ table.toList, symbol.file = file

/-- The files of a scope, in order. -/
def scannedFiles (table : SymbolTable) (name : String) : UsageScope → List String
  | .definingFiles => table.definingFiles name
  | .allFiles => table.files

/-- The defining files of a name are those with a symbol of it. -/
theorem Indexed.mem_definingFiles_iff (indexed : table.Indexed) :
    file ∈ table.definingFiles name ↔ table.Defines name file := by
  rw [definingFiles, Std.ExtTreeSet.mem_toList, indexed.named_eq]
  simp [Defines, and_assoc]

/-- The files of a table are those of its symbols. -/
theorem Indexed.mem_files_iff (indexed : table.Indexed) :
    file ∈ table.files ↔ ∃ symbol ∈ table.toList, symbol.file = file := by
  rw [SymbolTable.files, Std.ExtTreeMap.mem_keys, indexed.files.mem_iff]
  simp [toList]

/-- The scanned files are those that the scope asks for. -/
theorem Indexed.mem_scannedFiles_iff (indexed : table.Indexed) :
    file ∈ table.scannedFiles name scope ↔ table.Scanned name scope file := by
  cases scope with
  | definingFiles => exact indexed.mem_definingFiles_iff
  | allFiles => exact indexed.mem_files_iff

/-- The scanned files come in strictly rising order. -/
theorem ordered_scannedFiles (table : SymbolTable) (name : String) (scope : UsageScope) :
    (table.scannedFiles name scope).Pairwise (· < ·) := by
  cases scope with
  | definingFiles =>
    rw [scannedFiles, definingFiles]
    exact FileSet.ordered_toList _
  | allFiles => exact FileMap.ordered_keys table.byFile

/-- The files that define a name are found among all files. -/
theorem Indexed.definingFiles_eq (indexed : table.Indexed) (name : String) :
    table.definingFiles name = table.files.filter fun file => table.Defines name file := by
  refine eq_of_ordered Std.ExtTreeSet.ordered_toList ?_ fun file => ?_
  · exact Std.ExtTreeMap.ordered_keys.filter _
  · rw [indexed.mem_definingFiles_iff, List.mem_filter, indexed.mem_files_iff, decide_eq_true_iff]
    exact ⟨fun ⟨symbol, stored, named, own⟩ => ⟨⟨symbol, stored, own⟩, symbol, stored, named, own⟩,
      And.right⟩

/-- The lines of definitions are those that a symbol of the name is defined on. -/
theorem Indexed.contains_definitionLines (indexed : table.Indexed) (name file : String)
    (line : Nat) :
    (table.definitionLines name file).contains line = decide (table.DefinesOn name file line) := by
  rw [Bool.eq_iff_iff, List.contains_iff_mem, decide_eq_true_iff, definitionLines, indexed.named_eq]
  simp [DefinesOn, and_assoc, and_left_comm]

/-! ## The usages of a scope -/

/-- The usages in one file; a file that cannot be read has none. -/
def usagesIn (table : SymbolTable) (name : String) (read : String → Option String)
    (file : String) : List Usage :=
  match read file with
  | some text => inText file name (table.definitionLines name file) text
  | none => []

/-- The usages of a name are those of the scanned files, file by file. -/
theorem usages_eq (named : name ≠ "") (scope : UsageScope) (read : String → Option String) :
    table.usages name scope read =
      (table.scannedFiles name scope).flatMap (table.usagesIn name read) := by
  have asked : ¬name.isEmpty = true := by simpa using named
  unfold usages
  rw [if_neg asked]
  cases scope <;> rfl

/-- Usages of a file carry it. -/
theorem file_of_mem_usagesIn (member : usage ∈ table.usagesIn name read file) :
    usage.file = file := by
  rw [usagesIn] at member
  split at member
  · exact file_of_mem_inText member
  · cases member

/-- The usages of a file come in order. -/
theorem ordered_usagesIn (table : SymbolTable) (name : String) (read : String → Option String)
    (file : String) : (table.usagesIn name read file).Pairwise Precedes := by
  rw [usagesIn]
  split
  · exact ordered_inText _ _ _ _
  · exact .nil

/-- Usages come in order. -/
theorem ordered_usages (named : name ≠ "") (scope : UsageScope) (read : String → Option String) :
    (table.usages name scope read).Pairwise Precedes := by
  rw [usages_eq named, List.pairwise_flatMap]
  refine ⟨fun file _ => table.ordered_usagesIn name read file, ?_⟩
  refine (table.ordered_scannedFiles name scope).imp fun {file other} below => ?_
  intro first member second member'
  rw [Precedes, place, place, file_of_mem_usagesIn member, file_of_mem_usagesIn member']
  exact .left _ _ below

/-- What stands behind a usage: a file of the scope that can be read, a line of it and a position on
the line at which the name stands as a whole identifier. Lines and columns count from one, columns
in characters. -/
inductive Recorded (table : SymbolTable) (name : String) (scope : UsageScope)
    (read : String → Option String) : Usage → Prop
  | of {file text line : String} {index position : Nat} {behind : List Char}
      (scanned : table.Scanned name scope file) (readable : read file = some text)
      (listed : (Text.lines text)[index]? = some line)
      (stands : StandsAt name.toList line.toList position behind) :
      Recorded table name scope read
        { file
          line := index + 1
          column := position + 1
          kind := classify line behind (table.DefinesOn name file (index + 1))
          text := Text.trim line }

/-- What is listed of a name is what the scanned texts record of it. -/
theorem Indexed.mem_usages_iff (indexed : table.Indexed) (named : name ≠ "")
    (word : ∀ c ∈ name.toList, isIdentifierChar c = true) :
    usage ∈ table.usages name scope read ↔ table.Recorded name scope read usage := by
  rw [usages_eq named, List.mem_flatMap]
  constructor
  · rintro ⟨file, listed, member⟩
    rw [usagesIn] at member
    split at member
    next text readable =>
      obtain ⟨index, line, found, shown⟩ := mem_inText_iff.mp member
      obtain ⟨⟨position, behind⟩, occurs, rfl⟩ := List.mem_map.mp shown
      have stands := (mem_occurrences_iff named word).mp occurs
      rw [indexed.contains_definitionLines]
      exact .of (indexed.mem_scannedFiles_iff.mp listed) readable found stands
    next => cases member
  · rintro @⟨file, text, line, index, position, behind, scanned, readable, listed, stands⟩
    refine ⟨file, indexed.mem_scannedFiles_iff.mpr scanned, ?_⟩
    rw [usagesIn, readable]
    refine mem_inText_iff.mpr ⟨index, line, listed, List.mem_map.mpr ⟨(position, behind), ?_, ?_⟩⟩
    · exact (mem_occurrences_iff named word).mpr stands
    · rw [indexed.contains_definitionLines]

/-- The narrow scope leaves out what lies in files that do not define the name. -/
theorem Indexed.usages_definingFiles (indexed : table.Indexed) (named : name ≠ "")
    (read : String → Option String) :
    table.usages name .definingFiles read =
      (table.usages name .allFiles read).filter fun usage => table.Defines name usage.file := by
  have kept : ∀ file, (table.usagesIn name read file).filter
      (fun usage => table.Defines name usage.file) =
        if table.Defines name file then table.usagesIn name read file else [] := by
    intro file
    have same : ∀ usage ∈ table.usagesIn name read file,
        decide (table.Defines name usage.file) = decide (table.Defines name file) :=
      fun usage member => by rw [file_of_mem_usagesIn member]
    rw [List.filter_congr same]
    by_cases defines : table.Defines name file <;> simp [defines]
  rw [usages_eq named, usages_eq named, List.filter_flatMap]
  simp only [scannedFiles, kept, indexed.definingFiles_eq]
  induction table.files with
  | nil => rfl
  | cons file rest inductionHypothesis =>
    rw [List.filter_cons, List.flatMap_cons, ← inductionHypothesis]
    by_cases defines : table.Defines name file <;> simp [defines]

/-- A scan for an identifier reports every place in the readable files of its scope at which the
name stands as a whole identifier, each once, in the order of file, line and column. All slices that
the scan takes off a line lie on character boundaries. The narrow scope reports what the wide one
reports for the files that define the name. -/
theorem usages_exact (indexed : table.Indexed) (named : name ≠ "")
    (word : ∀ c ∈ name.toList, isIdentifierChar c = true) (read : String → Option String) :
    (∀ scope, (table.usages name scope read).Pairwise Precedes ∧
      ∀ usage, usage ∈ table.usages name scope read ↔ table.Recorded name scope read usage) ∧
    (∀ line, slicedOccurrences? name line = some (occurrences name line)) ∧
    table.usages name .definingFiles read =
      (table.usages name .allFiles read).filter fun usage => table.Defines name usage.file :=
  ⟨fun scope => ⟨ordered_usages named scope read, fun _ => indexed.mem_usages_iff named word⟩,
    slicedOccurrences?_eq name, indexed.usages_definingFiles named read⟩

/-! ## A scan: matches that overlap, and characters of two bytes -/

/-- Three files, of which one defines the name. -/
def umlautTable : SymbolTable :=
  .ofSymbols [oneLiner "b.ts" "aßa" 2, oneLiner "a.ts" "maß" 1, oneLiner "c.ts" "maß" 1] 0

/-- The texts of the files; the last one cannot be read. -/
def umlautText? : String → Option String
  | "a.ts" => some "aßaßa(aßa) + maß\r\n  aßa_, aßa$, äaßa\naßa"
  | "b.ts" => some "\nexport const aßa = aßaaßa(\"ß aßa\")\n"
  | _ => none

/-- The match at the start of the first line hides the one that overlaps it. Neither stands as a
whole identifier, and the next place on that line is found. -/
theorem umlautTable_usages_exact :
    umlautTable.Indexed ∧ "aßa" ≠ "" ∧ (∀ c ∈ "aßa".toList, isIdentifierChar c = true) ∧
      (umlautTable.usages "aßa" .allFiles umlautText?).map place =
        [("a.ts", 1, 7), ("a.ts", 3, 1), ("b.ts", 2, 14), ("b.ts", 2, 30)] ∧
      (umlautTable.usages "aßa" .definingFiles umlautText?).map place =
        [("b.ts", 2, 14), ("b.ts", 2, 30)] ∧
      (∀ scope, (umlautTable.usages "aßa" scope umlautText?).Pairwise Precedes ∧
        ∀ usage, usage ∈ umlautTable.usages "aßa" scope umlautText? ↔
          umlautTable.Recorded "aßa" scope umlautText? usage) ∧
      (∀ line, slicedOccurrences? "aßa" line = some (occurrences "aßa" line)) ∧
      umlautTable.usages "aßa" .definingFiles umlautText? =
        (umlautTable.usages "aßa" .allFiles umlautText?).filter fun usage =>
          umlautTable.Defines "aßa" usage.file := by
  have indexed : umlautTable.Indexed := indexed_ofSymbols (by decide +kernel) 0
  have word : ∀ c ∈ "aßa".toList, isIdentifierChar c = true :=
    List.all_eq_true.mp (by decide +kernel)
  exact ⟨indexed, by decide, word, by decide +kernel, by decide +kernel,
    usages_exact indexed (by decide) word umlautText?⟩

end SymbolTable

end SourceAtlas
