import SourceAtlas.Proofs.Symbol.Lookup
import SourceAtlas.Proofs.Symbol.Ownership

/-!
# Runs of edits

A symbol table changes in four ways (`Edit`), and every table in use comes out
of a run of such edits from the empty one (`afterEdits`). When the symbols are
made from facts of their files and no path has a colon, the look-up maps are
exact after every run: they project the symbols, and what is read off them is
what a pass over all symbols would find.
-/

namespace SourceAtlas

/-- A symbol made from a fact of a file. -/
def Symbol.ComesFrom (symbol : Symbol) (file : String) : Prop :=
  ∃ (fact : SymbolFact) (lines : List String) (contextLines : Nat) (now : Int),
    symbol = ofFact file fact lines contextLines now

/-- A symbol made from a file carries it. -/
theorem Symbol.ComesFrom.file_eq {symbol : Symbol} {file : String} (made : symbol.ComesFrom file) :
    symbol.file = file := by
  obtain ⟨fact, lines, contextLines, now, rfl⟩ := made
  rfl

/-- The id of a symbol names its file, if that has no colon. -/
theorem Symbol.ComesFrom.ownerOf_id {symbol : Symbol} {file : String}
    (made : symbol.ComesFrom file) (colonFree : ColonFree file) : ownerOf symbol.id = file := by
  obtain ⟨fact, lines, contextLines, now, rfl⟩ := made
  exact ownerOf_makeId colonFree _ _

namespace SymbolTable

/-- A change of a table. -/
inductive Edit where
  /-- Store the symbols of a file in place of the earlier ones. -/
  | replaceFile (file : String) (symbols : List Symbol) (now : Int)
  /-- Drop everything stored for a file. -/
  | removeFile (file : String)
  /-- Drop one symbol. -/
  | removeSymbol (id : String)
  /-- Start over from a list of symbols. -/
  | restart (symbols : List Symbol) (lastUpdated : Int)

namespace Edit

/-- The table after an edit. -/
def apply (table : SymbolTable) : Edit → SymbolTable
  | replaceFile file symbols now => table.replaceFile file symbols now
  | removeFile file => table.removeFile file
  | removeSymbol id => table.removeSymbol id
  | restart symbols lastUpdated => ofSymbols symbols lastUpdated

/-- The symbols that an edit brings are made from facts of the files they are stored for. -/
def FromFacts : Edit → Prop
  | replaceFile file symbols _ => ∀ symbol ∈ symbols, symbol.ComesFrom file
  | restart symbols _ => ∀ symbol ∈ symbols, symbol.ComesFrom symbol.file
  | _ => True

/-- An edit that mixes up no files: the paths have no colon, and a list of symbols to start from
has no identifier twice. -/
def Separate : Edit → Prop
  | replaceFile file _ _ => ColonFree file
  | restart symbols _ =>
    (symbols.Pairwise fun first second => first.id ≠ second.id) ∧
      ∀ symbol ∈ symbols, ColonFree symbol.file
  | _ => True

instance : DecidablePred Separate
  | replaceFile file _ _ => inferInstanceAs (Decidable (ColonFree file))
  | removeFile _ => .isTrue trivial
  | removeSymbol _ => .isTrue trivial
  | restart symbols _ => inferInstanceAs (Decidable
      ((symbols.Pairwise fun first second => first.id ≠ second.id) ∧
        ∀ symbol ∈ symbols, ColonFree symbol.file))

end Edit

/-- The table after a run of edits of the empty one. -/
def afterEdits (edits : List Edit) : SymbolTable := edits.foldl Edit.apply empty

variable {table : SymbolTable} {edit : Edit} {edits : List Edit} {file : String}
  {symbols : List Symbol}

/-- Symbols made from a file without a colon belong to it. -/
theorem belongTo_of_comesFrom (made : ∀ symbol ∈ symbols, symbol.ComesFrom file)
    (colonFree : ColonFree file) : BelongTo symbols file := by
  intro symbol member
  exact ⟨(made symbol member).file_eq, (made symbol member).ownerOf_id colonFree⟩

/-- One edit keeps files and identifiers in step. -/
theorem Owned.apply (owned : table.Owned) (fromFacts : edit.FromFacts) (separate : edit.Separate) :
    (edit.apply table).Owned := by
  cases edit with
  | replaceFile file symbols now =>
    exact owned.replaceFile (belongTo_of_comesFrom fromFacts separate) now
  | removeFile file => exact owned.removeFile file
  | removeSymbol id => exact owned.removeSymbol id
  | restart symbols lastUpdated =>
    obtain ⟨distinct, colonFree⟩ := separate
    refine owned_ofSymbols distinct (fun symbol member => ?_) lastUpdated
    exact ((fromFacts symbol member).ownerOf_id (colonFree symbol member)).symm

/-- Edits keep files and identifiers in step. -/
theorem Owned.foldl_apply (owned : table.Owned) (fromFacts : ∀ edit ∈ edits, edit.FromFacts)
    (separate : ∀ edit ∈ edits, edit.Separate) : (edits.foldl Edit.apply table).Owned := by
  refine List.foldlRecOn (motive := Owned) edits Edit.apply owned ?_
  intro table owned edit member
  exact owned.apply (fromFacts edit member) (separate edit member)

/-- The look-up maps of a table are exact, and so is all that is read off them. -/
structure Exact (table : SymbolTable) : Prop extends table.Indexed where
  byKind_iff : ∀ {kind : SymbolKind} {id : String}, table.byKind.Holds kind.label id ↔
    ∃ symbol, table.symbols[id]? = some symbol ∧ symbol.kind = kind
  named_eq : ∀ name : String,
    table.named name = table.toList.filter fun symbol => symbol.name = name
  inFile_eq : ∀ file : String,
    table.inFile file = (table.toList.filter fun symbol => symbol.file = file).mergeSort lineOrder
  ofKind_eq : ∀ kind : SymbolKind,
    table.ofKind kind = table.toList.filter fun symbol => symbol.kind = kind
  total_byKind : total (table.stats.byKind.map Prod.snd) = table.stats.symbolCount
  fileCount_eq : table.stats.fileCount = (table.toList.map Symbol.file).dedup.length

/-- An indexed table gives exact answers. -/
theorem Indexed.exact (indexed : table.Indexed) : table.Exact where
  toIndexed := indexed
  byKind_iff {kind id} := by
    rw [indexed.kinds.holds_iff]
    simp only [SymbolKind.label_inj]
  named_eq := indexed.named_eq
  inFile_eq := indexed.inFile_eq
  ofKind_eq := indexed.ofKind_eq
  total_byKind := indexed.total_byKind
  fileCount_eq := indexed.fileCount_eq

/-- A file that was stored anew holds the first new symbol of each identifier. -/
theorem Owned.mem_inFile_replaceFile (owned : table.Owned) (belong : BelongTo symbols file)
    (now : Int) (symbol : Symbol) :
    symbol ∈ (table.replaceFile file symbols now).inFile file ↔
      (symbols.find? fun other => other.id = symbol.id) = some symbol := by
  have after := owned.replaceFile belong now
  rw [after.toIndexed.mem_inFile_iff]
  constructor
  · rintro ⟨stored, own⟩
    have owner : Symbol.ownerOf symbol.id = file := (after.owner stored).symm.trans own
    rwa [owned.symbols_replaceFile belong, if_pos owner] at stored
  · intro first
    obtain ⟨own, owner⟩ := belong symbol (List.mem_of_find?_eq_some first)
    rw [owned.symbols_replaceFile belong, if_pos owner]
    exact ⟨first, own⟩

/-- After every run of edits the look-up maps are exact. Storing a file then makes the identifiers
of its symbols leave and leaves the file with the first new symbol of each identifier. -/
theorem exact_afterEdits (edits : List Edit) (fromFacts : ∀ edit ∈ edits, edit.FromFacts)
    (separate : ∀ edit ∈ edits, edit.Separate) :
    (afterEdits edits).Exact ∧
      ∀ (file : String) (symbols : List Symbol) (now : Int),
        (Edit.replaceFile file symbols now).FromFacts →
        (Edit.replaceFile file symbols now).Separate →
        (afterEdits edits).idsOfFile file =
            ((afterEdits edits).toList.filter fun symbol => symbol.file = file).map Symbol.id ∧
          (((afterEdits edits).replaceFile file symbols now).inFile file).Nodup ∧
          ∀ symbol, symbol ∈ ((afterEdits edits).replaceFile file symbols now).inFile file ↔
            (symbols.find? fun other => other.id = symbol.id) = some symbol := by
  have owned : (afterEdits edits).Owned := owned_empty.foldl_apply fromFacts separate
  refine ⟨owned.toIndexed.exact, fun file symbols now made colonFree => ?_⟩
  have belong := belongTo_of_comesFrom made colonFree
  exact ⟨owned.toIndexed.idsOfFile_eq file,
    (owned.replaceFile belong now).toIndexed.nodup_inFile file,
    owned.mem_inFile_replaceFile belong now⟩

/-! ## A run: two files are stored, a symbol and a file leave, and the table is rebuilt -/

/-- A function of one line. -/
def oneLiner (file name : String) (line : Nat) : Symbol :=
  .ofFact file { name, kind := .function, startLine := line, endLine := line, signature := none }
    [] 0 0

/-- The symbols of the examples are made from their files. -/
theorem oneLiner_comesFrom (file name : String) (line : Nat) :
    (oneLiner file name line).ComesFrom file := ⟨_, _, _, _, rfl⟩

/-- Edits of all four kinds; one identifier is brought twice, and one name has a colon. -/
def mixedEdits : List Edit :=
  [.replaceFile "a.ts"
      [oneLiner "a.ts" "load" 1, oneLiner "a.ts" "load" 1, oneLiner "a.ts" "x:y" 2] 1,
    .replaceFile "b.ts" [oneLiner "b.ts" "load" 2] 2, .removeSymbol "a.ts:x:y:2",
    .removeFile "b.ts", .restart [oneLiner "c.ts" "main" 1, oneLiner "a.ts" "load" 1] 3]

/-- The edits of the example are made from parsed files. -/
theorem fromFacts_mixedEdits : ∀ edit ∈ mixedEdits, edit.FromFacts := by
  have restarted : ∀ name file, (oneLiner file name 1).ComesFrom (oneLiner file name 1).file :=
    fun name file => oneLiner_comesFrom file name 1
  simp [mixedEdits, Edit.FromFacts, oneLiner_comesFrom, restarted]

/-- After these edits the look-up maps are exact, and `a.ts` can be stored once more. -/
theorem exact_afterMixedEdits :
    (∀ edit ∈ mixedEdits, edit.Separate) ∧ (afterEdits mixedEdits).Exact ∧
      (afterEdits mixedEdits).idsOfFile "a.ts" = ["a.ts:load:1"] ∧
      ∀ symbol, symbol ∈ ((afterEdits mixedEdits).replaceFile "a.ts"
          [oneLiner "a.ts" "save" 4, oneLiner "a.ts" "save" 4] 4).inFile "a.ts" ↔
        ([oneLiner "a.ts" "save" 4, oneLiner "a.ts" "save" 4].find? fun other =>
          other.id = symbol.id) = some symbol := by
  have separate : ∀ edit ∈ mixedEdits, edit.Separate := by decide +kernel
  obtain ⟨exact, stored⟩ := exact_afterEdits mixedEdits fromFacts_mixedEdits separate
  have made : (Edit.replaceFile "a.ts" [oneLiner "a.ts" "save" 4, oneLiner "a.ts" "save" 4]
      4).FromFacts := by
    simp [Edit.FromFacts, oneLiner_comesFrom]
  have colonFree : ColonFree "a.ts" := by decide
  exact ⟨separate, exact, by decide +kernel, (stored "a.ts" _ 4 made colonFree).2.2⟩

end SymbolTable

end SourceAtlas
