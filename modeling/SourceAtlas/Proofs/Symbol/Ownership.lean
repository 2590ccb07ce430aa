import SourceAtlas.Proofs.Symbol.Table

/-!
# Files own their symbols

An identifier starts with the file of its symbol and a colon. Where no file has
a colon in its path, the identifier alone says which file it belongs to, so the
files of a table (`Owned`) can be dropped and stored one by one without a
word about the others. `SymbolTable.untimed` is a table without its time
stamps: the part that depends on contents alone.
-/

namespace SourceAtlas

/-- A path without a colon. -/
def ColonFree (path : String) : Prop := ':' ∉ path.toList

instance {path : String} : Decidable (ColonFree path) :=
  inferInstanceAs (Decidable (':' ∉ path.toList))

namespace Symbol

/-- The file that an identifier names: the text before its first colon. -/
def ownerOf (id : String) : String := String.ofList (id.toList.takeWhile (· ≠ ':'))

/-- An id names the file it was made from, if that has no colon. -/
theorem ownerOf_makeId {file : String} (colonFree : ColonFree file) (name : String) (line : Nat) :
    ownerOf (makeId file name line) = file := by
  have kept : ∀ c ∈ file.toList, decide (c ≠ ':') = true := by
    intro c member
    simpa using fun same : c = ':' => colonFree (same ▸ member)
  rw [ownerOf, makeId]
  simp only [String.toList_append, List.append_assoc]
  rw [List.takeWhile_append_of_pos kept, show ":".toList = [':'] from rfl]
  simp

/-- A symbol without its time stamp. -/
def untimed (symbol : Symbol) : Symbol := { symbol with indexedAt := 0 }

/-- Without its times a symbol has its id. -/
@[simp]
theorem id_untimed (symbol : Symbol) : symbol.untimed.id = symbol.id := rfl

/-- Times are left out once. -/
@[simp]
theorem untimed_untimed (symbol : Symbol) : symbol.untimed.untimed = symbol.untimed := rfl

/-- Without its times a symbol does not depend on when it was made. -/
@[simp]
theorem untimed_ofFact (file : String) (fact : SymbolFact) (lines : List String)
    (contextLines : Nat) (now : Int) :
    (ofFact file fact lines contextLines now).untimed = ofFact file fact lines contextLines 0 :=
  rfl

end Symbol

namespace SymbolTable

variable {table : SymbolTable} {symbols : List Symbol} {file : String}

/-- A table without its time stamps. -/
def untimed (table : SymbolTable) : SymbolTable :=
  { table with symbols := table.symbols.map fun _ symbol => symbol.untimed, lastUpdated := 0 }

/-- Two tables with the same symbols, time stamps apart, have the same look-ups. -/
theorem Indexed.untimed_eq {first second : SymbolTable} (firstIndexed : first.Indexed)
    (secondIndexed : second.Indexed)
    (same : ∀ id : String, (first.symbols[id]?).map Symbol.untimed =
      (second.symbols[id]?).map Symbol.untimed) : first.untimed = second.untimed := by
  -- Every key reads the same from a symbol and from its untimed form.
  have keys : ∀ (keyOf : Symbol → String), (∀ symbol, keyOf symbol.untimed = keyOf symbol) →
      ∀ id : String, (first.symbols[id]?).map keyOf = (second.symbols[id]?).map keyOf := by
    intro keyOf blind id
    have composed : keyOf ∘ Symbol.untimed = keyOf := funext blind
    rw [← composed, ← Option.map_map, ← Option.map_map, same id]
  have symbols : (first.symbols.map fun _ symbol => symbol.untimed) =
      second.symbols.map fun _ symbol => symbol.untimed := by
    refine Std.ExtTreeMap.ext_getElem? fun id => ?_
    rw [Std.ExtTreeMap.getElem?_map, Std.ExtTreeMap.getElem?_map]
    exact same id
  have names := firstIndexed.names.ext secondIndexed.names (keys _ fun _ => rfl)
  have files := firstIndexed.files.ext secondIndexed.files (keys _ fun _ => rfl)
  have kinds := firstIndexed.kinds.ext secondIndexed.kinds (keys _ fun _ => rfl)
  rw [untimed, untimed, symbols, names, files, kinds]

/-- An indexed table in which identifiers name the files of their symbols. -/
structure Owned (table : SymbolTable) : Prop extends table.Indexed where
  owner : ∀ {id : String} {symbol : Symbol},
    table.symbols[id]? = some symbol → symbol.file = Symbol.ownerOf id

/-- In a table without symbols none is under a foreign id. -/
theorem owned_empty : empty.Owned where
  toIndexed := indexed_empty
  owner := by simp [empty]

/-- Symbols that can be stored for a file: they belong to it and their identifiers say so. -/
def BelongTo (symbols : List Symbol) (file : String) : Prop :=
  ∀ symbol ∈ symbols, symbol.file = file ∧ Symbol.ownerOf symbol.id = file

/-- Removing a file takes the symbols whose ids name it. -/
theorem Owned.symbols_removeFile (owned : table.Owned) (file id : String) :
    (table.removeFile file).symbols[id]? =
      if Symbol.ownerOf id = file then none else table.symbols[id]? := by
  rw [owned.toIndexed.symbols_removeFile]
  cases stored : table.symbols[id]? with
  | none => simp
  | some symbol =>
    rw [Option.filter_some, owned.owner stored]
    by_cases own : Symbol.ownerOf id = file <;> simp [own]

/-- Removing a file keeps every other id with its file. -/
theorem Owned.removeFile (owned : table.Owned) (file : String) :
    (table.removeFile file).Owned where
  toIndexed := owned.toIndexed.removeFile file
  owner {id symbol} found := by
    rw [owned.symbols_removeFile] at found
    split at found
    · cases found
    · exact owned.owner found

/-- Removing a symbol keeps every other id with its file. -/
theorem Owned.removeSymbol (owned : table.Owned) (id : String) : (table.removeSymbol id).Owned where
  toIndexed := owned.toIndexed.removeSymbol id
  owner {other symbol} found := by
    rw [symbols_removeSymbol] at found
    split at found
    · cases found
    · exact owned.owner found

/-- A table whose ids name their files admits symbols that belong to theirs. -/
theorem Owned.admits (owned : table.Owned) (belong : BelongTo symbols file) :
    table.Admits file symbols := by
  intro symbol member stored found
  rw [owned.owner found]
  exact (belong symbol member).2

/-- A replaced file has its new symbols and every other one what it had. -/
theorem Owned.symbols_replaceFile (owned : table.Owned) (belong : BelongTo symbols file)
    (now : Int) (id : String) :
    (table.replaceFile file symbols now).symbols[id]? =
      if Symbol.ownerOf id = file then symbols.find? fun symbol => symbol.id = id
      else table.symbols[id]? := by
  rw [owned.toIndexed.symbols_replaceFile]
  split
  · next own =>
    have dropped : ((table.symbols[id]?).filter fun symbol => symbol.file ≠ file) = none := by
      cases stored : table.symbols[id]? with
      | none => rfl
      | some symbol => simp [owned.owner stored, own, Option.filter_some]
    rw [dropped, Option.or_none]
  · next foreign =>
    have absent : (symbols.find? fun symbol => symbol.id = id) = none := by
      rw [List.find?_eq_none]
      intro symbol member same
      have named := (belong symbol member).2
      rw [of_decide_eq_true same] at named
      exact foreign named
    have kept : ((table.symbols[id]?).filter fun symbol => symbol.file ≠ file) =
        table.symbols[id]? := by
      cases stored : table.symbols[id]? with
      | none => rfl
      | some symbol => simp [owned.owner stored, foreign, Option.filter_some]
    rw [absent, Option.none_or, kept]

/-- Replacing the symbols of a file keeps every id with its file. -/
theorem Owned.replaceFile (owned : table.Owned) (belong : BelongTo symbols file) (now : Int) :
    (table.replaceFile file symbols now).Owned where
  toIndexed := owned.toIndexed.replaceFile (owned.admits belong) now
  owner {id symbol} found := by
    rw [owned.symbols_replaceFile belong] at found
    split at found
    · next own =>
      rw [own]
      exact (belong symbol (List.mem_of_find?_eq_some found)).1
    · exact owned.owner found

/-- The table of symbols with different identifiers that name their files. -/
theorem owned_ofSymbols (distinct : symbols.Pairwise fun first second => first.id ≠ second.id)
    (named : ∀ symbol ∈ symbols, symbol.file = Symbol.ownerOf symbol.id) (lastUpdated : Int) :
    (ofSymbols symbols lastUpdated).Owned where
  toIndexed := indexed_ofSymbols distinct lastUpdated
  owner {id symbol} found := by
    rw [symbols_ofSymbols distinct] at found
    have same : symbol.id = id := by simpa using List.find?_some found
    rw [named symbol (List.mem_of_find?_eq_some found), same]

end SymbolTable

end SourceAtlas
