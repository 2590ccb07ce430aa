import SourceAtlas.Proofs.Symbol.Edits

/-!
# What one file does to another

An identifier joins a path, a name and a line by colons, and a path or a name
may have colons of its own, so symbols of two files can have one identifier.
The table then keeps the later symbol, while the earlier file still lists the
identifier. What holds after every run of edits is weaker (`Listed`), and from
it follows when exactly dropping or storing one file leaves another one alone.
-/

namespace SourceAtlas.SymbolTable

variable {table before after : SymbolTable} {symbol : Symbol} {symbols : List Symbol}
  {id file other : String}

/-- Symbols stand under their identifiers, and each is listed for its file. -/
structure Listed (table : SymbolTable) : Prop where
  keyed : ∀ {id : String} {symbol : Symbol}, table.symbols[id]? = some symbol → symbol.id = id
  listed : ∀ {id : String} {symbol : Symbol},
    table.symbols[id]? = some symbol → table.byFile.Holds symbol.file id

/-- In a table without symbols none is left unlisted. -/
theorem listed_empty : empty.Listed where
  keyed := by simp [empty]
  listed := by simp [empty]

/-- An inserted symbol is listed under its file. -/
theorem Listed.insert (listed : table.Listed) (symbol : Symbol) : (table.insert symbol).Listed where
  keyed {id stored} found := by
    rw [SymbolTable.insert, Std.ExtTreeMap.getElem?_insert] at found
    split at found
    · next same =>
      cases found
      exact Std.LawfulEqCmp.eq_of_compare same
    · exact listed.keyed found
  listed {id stored} found := by
    rw [SymbolTable.insert, Buckets.holds_add]
    rw [SymbolTable.insert, Std.ExtTreeMap.getElem?_insert] at found
    split at found
    · next same =>
      cases found
      exact .inl ⟨rfl, Std.LawfulEqCmp.eq_of_compare same⟩
    · exact .inr (listed.listed found)

/-- Inserted symbols are listed under their files. -/
theorem Listed.foldl_insert (listed : table.Listed) (symbols : List Symbol) :
    (symbols.foldl SymbolTable.insert table).Listed := by
  refine List.foldlRecOn (motive := Listed) symbols SymbolTable.insert listed ?_
  intro table listed symbol _
  exact listed.insert symbol

/-- Removing a file leaves every other symbol listed. -/
theorem Listed.removeFile (listed : table.Listed) (file : String) :
    (table.removeFile file).Listed where
  keyed {id symbol} found := by
    rw [symbols_removeFile] at found
    split at found
    · cases found
    · exact listed.keyed found
  listed {id symbol} found := by
    rw [symbols_removeFile] at found
    split at found
    · cases found
    · next unlisted =>
      have held := listed.listed found
      rw [byFile_removeFile, Buckets.holds_erase]
      refine ⟨held, fun same => unlisted ?_⟩
      rwa [idsOfFile, Buckets.mem_ids_iff, same]

/-- Removing a symbol leaves every other one listed. -/
theorem Listed.removeSymbol (listed : table.Listed) (id : String) :
    (table.removeSymbol id).Listed where
  keyed {other symbol} found := by
    rw [symbols_removeSymbol] at found
    split at found
    · cases found
    · exact listed.keyed found
  listed {other symbol} found := by
    rw [symbols_removeSymbol] at found
    split at found
    · cases found
    · next apart =>
      have held := listed.listed found
      rw [SymbolTable.removeSymbol]
      split
      · exact Buckets.holds_drop.mpr ⟨held, fun same => apart same.2⟩
      · exact held

/-- Replacing the symbols of a file leaves every symbol listed. -/
theorem Listed.replaceFile (listed : table.Listed) (file : String) (symbols : List Symbol)
    (now : Int) : (table.replaceFile file symbols now).Listed := by
  have stored := (listed.removeFile file).foldl_insert (firstById ∅ symbols)
  exact ⟨stored.keyed, stored.listed⟩

/-- One edit, whatever symbols it brings. -/
theorem Listed.apply (listed : table.Listed) (edit : Edit) : (edit.apply table).Listed := by
  cases edit with
  | replaceFile file symbols now => exact listed.replaceFile file symbols now
  | removeFile file => exact listed.removeFile file
  | removeSymbol id => exact listed.removeSymbol id
  | restart symbols lastUpdated =>
    have stored := listed_empty.foldl_insert symbols
    exact ⟨stored.keyed, stored.listed⟩

/-- After any edits every symbol is listed under its file. -/
theorem listed_afterEdits (edits : List Edit) : (afterEdits edits).Listed := by
  refine List.foldlRecOn (motive := Listed) edits Edit.apply listed_empty ?_
  intro table listed edit _
  exact listed.apply edit

/-! ## The identifiers listed for another file -/

/-- Files that hold the same ids list them alike. -/
theorem idsOfFile_congr (same : ∀ id, after.byFile.Holds file id ↔ before.byFile.Holds file id) :
    after.idsOfFile file = before.idsOfFile file := by
  have sets : (after.byFile[file]?).getD ∅ = (before.byFile[file]?).getD ∅ :=
    Std.ExtTreeSet.ext_mem fun id => same id
  rw [idsOfFile, idsOfFile, Buckets.ids, Buckets.ids, sets]

/-- Removing a file leaves the ids of every other one. -/
theorem idsOfFile_removeFile (apart : other ≠ file) :
    (table.removeFile file).idsOfFile other = table.idsOfFile other := by
  refine idsOfFile_congr fun id => ?_
  rw [byFile_removeFile, Buckets.holds_erase]
  exact and_iff_left (Ne.symm apart)

/-- Inserting symbols of a file leaves the ids of every other one. -/
theorem idsOfFile_foldl_insert (own : ∀ symbol ∈ symbols, symbol.file = file)
    (apart : other ≠ file) :
    (symbols.foldl insert table).idsOfFile other = table.idsOfFile other := by
  induction symbols generalizing table with
  | nil => rfl
  | cons first rest inductionHypothesis =>
    have inserted : (table.insert first).idsOfFile other = table.idsOfFile other := by
      refine idsOfFile_congr fun id => ?_
      rw [insert, Buckets.holds_add, own first (.head _)]
      exact or_iff_right fun same => apart same.1.symm
    rw [List.foldl_cons, inductionHypothesis fun symbol member => own symbol (.tail _ member),
      inserted]

/-- Replacing the symbols of a file leaves the ids of every other one. -/
theorem idsOfFile_replaceFile (own : ∀ symbol ∈ symbols, symbol.file = file)
    (apart : other ≠ file) (now : Int) :
    (table.replaceFile file symbols now).idsOfFile other = table.idsOfFile other := by
  have kept : ∀ symbol ∈ firstById ∅ symbols, symbol.file = file := fun symbol member =>
    own symbol (mem_of_mem_firstById member).1
  exact (idsOfFile_foldl_insert kept apart).trans (idsOfFile_removeFile apart)

/-! ## When a file reads the same -/

/-- A file reads the same: it has the same symbols, and the same symbols are found under their
identifiers. -/
def Keeps (before after : SymbolTable) (file : String) : Prop :=
  after.inFile file = before.inFile file ∧
    ∀ symbol ∈ before.inFile file, after.get? symbol.id = before.get? symbol.id

/-- The symbols of a file are those it lists and that are stored under their ids. -/
theorem Listed.mem_inFile_iff (listed : table.Listed) :
    symbol ∈ table.inFile file ↔
      symbol.id ∈ table.idsOfFile file ∧ table.symbols[symbol.id]? = some symbol := by
  rw [inFile, List.mem_mergeSort, lookup, List.mem_filterMap]
  constructor
  · rintro ⟨id, member, stored⟩
    have same := listed.keyed stored
    subst same
    exact ⟨member, stored⟩
  · rintro ⟨member, stored⟩
    exact ⟨symbol.id, member, stored⟩

/-- A file that lists the same identifiers reads the same when the same is found under each. -/
theorem keeps_iff (beforeListed : before.Listed) (afterListed : after.Listed)
    (ids : after.idsOfFile file = before.idsOfFile file) :
    Keeps before after file ↔
      ∀ id ∈ before.idsOfFile file, after.symbols[id]? = before.symbols[id]? := by
  constructor
  · rintro ⟨same, -⟩ id member
    refine Option.ext fun symbol => ?_
    have read : symbol.id = id →
        (after.symbols[id]? = some symbol ↔ before.symbols[id]? = some symbol) := by
      rintro rfl
      have afterRead : symbol ∈ after.inFile file ↔ _ := afterListed.mem_inFile_iff
      rw [same, ids, beforeListed.mem_inFile_iff] at afterRead
      simpa [member] using afterRead.symm
    constructor
    · intro stored
      exact (read (afterListed.keyed stored)).mp stored
    · intro stored
      exact (read (beforeListed.keyed stored)).mpr stored
  · intro same
    constructor
    · rw [inFile, inFile, ids]
      exact congrArg (List.mergeSort · lineOrder) (List.filterMap_congr same)
    · intro symbol member
      exact same symbol.id (beforeListed.mem_inFile_iff.mp member).1

/-- Storing a file leaves another one alone when what the other lists is found unchanged. -/
theorem Listed.keeps_replaceFile_iff (listed : table.Listed)
    (own : ∀ symbol ∈ symbols, symbol.file = file) (apart : other ≠ file) (now : Int) :
    Keeps table (table.replaceFile file symbols now) other ↔
      ∀ id ∈ table.idsOfFile other,
        ((symbols.find? fun symbol => symbol.id = id).or
          (if id ∈ table.idsOfFile file then none else table.symbols[id]?)) =
            table.symbols[id]? := by
  rw [keeps_iff listed (listed.replaceFile file symbols now) (idsOfFile_replaceFile own apart now)]
  simp only [symbols_replaceFile, symbols_removeFile]

/-- Dropping a file leaves another one alone when no stored symbol is listed for both. -/
theorem Listed.keeps_removeFile_iff (listed : table.Listed) (apart : other ≠ file) :
    Keeps table (table.removeFile file) other ↔
      ∀ id ∈ table.idsOfFile other, id ∈ table.idsOfFile file → table.symbols[id]? = none := by
  rw [keeps_iff listed (listed.removeFile file) (idsOfFile_removeFile apart)]
  refine forall₂_congr fun id _ => ?_
  rw [symbols_removeFile]
  by_cases shared : id ∈ table.idsOfFile file
  · simp [shared, eq_comm]
  · simp [shared]

/-- No new symbol has an identifier that another file lists, and no stored symbol is listed for
both files. -/
def Apart (table : SymbolTable) (file : String) (symbols : List Symbol) (other : String) : Prop :=
  ∀ id ∈ table.idsOfFile other,
    (∀ symbol ∈ symbols, symbol.id ≠ id) ∧ (id ∈ table.idsOfFile file → table.get? id = none)

/-- Another file keeps its symbols in both edits exactly if the two share no id. -/
theorem Listed.keeps_iff_apart (listed : table.Listed)
    (own : ∀ symbol ∈ symbols, symbol.file = file) (apart : other ≠ file) (now : Int) :
    (Keeps table (table.replaceFile file symbols now) other ∧
        Keeps table (table.removeFile file) other) ↔
      table.Apart file symbols other := by
  rw [listed.keeps_replaceFile_iff own apart, listed.keeps_removeFile_iff apart]
  constructor
  · rintro ⟨replaced, removed⟩ id member
    refine ⟨?_, removed id member⟩
    by_contra shared
    -- A new symbol with this identifier would be found, so it is the one found before; but that
    -- one is listed for `file`, and dropping `file` would take it away.
    obtain ⟨first, found⟩ : ∃ first, (symbols.find? fun symbol => symbol.id = id) = some first := by
      rw [← Option.isSome_iff_exists, List.find?_isSome]
      simpa using shared
    have stored : table.symbols[id]? = some first := by
      rw [← replaced id member, found, Option.some_or]
    have held := listed.listed stored
    rw [own first (List.mem_of_find?_eq_some found)] at held
    have gone := removed id member (Buckets.mem_ids_iff.mpr held)
    rw [gone] at stored
    cases stored
  · intro separate
    constructor
    · intro id member
      obtain ⟨foreign, unshared⟩ := separate id member
      have absent : (symbols.find? fun symbol => symbol.id = id) = none := by
        rw [List.find?_eq_none]
        simpa using foreign
      rw [absent, Option.none_or]
      split
      · next shared => exact (unshared shared).symm
      · rfl
    · intro id member
      exact (separate id member).2

/-- Where identifiers name the files, files are apart. -/
theorem Owned.apart (owned : table.Owned) (belong : BelongTo symbols file) (apart : other ≠ file) :
    table.Apart file symbols other := by
  intro id member
  obtain ⟨stored, found, own⟩ := owned.toIndexed.mem_idsOfFile_iff.mp member
  have owner : Symbol.ownerOf id = other := (owned.owner found).symm.trans own
  constructor
  · rintro symbol listed rfl
    exact apart (owner.symm.trans (belong symbol listed).2)
  · intro shared
    obtain ⟨stored', found', own'⟩ := owned.toIndexed.mem_idsOfFile_iff.mp shared
    exact absurd (owner.symm.trans ((owned.owner found').symm.trans own')) apart

/-- After every run of edits, storing or dropping one file leaves another one as it was exactly
when the two are apart, which they are as long as no path has a colon. -/
theorem keeps_others_iff (edits : List Edit) {file other : String} (distinct : other ≠ file)
    (symbols : List Symbol) (now : Int)
    (made : (Edit.replaceFile file symbols now).FromFacts) :
    (((afterEdits edits).Keeps ((afterEdits edits).replaceFile file symbols now) other ∧
        (afterEdits edits).Keeps ((afterEdits edits).removeFile file) other) ↔
      (afterEdits edits).Apart file symbols other) ∧
    ((∀ edit ∈ edits, edit.FromFacts ∧ edit.Separate) → ColonFree file →
      (afterEdits edits).Apart file symbols other) := by
  constructor
  · exact (listed_afterEdits edits).keeps_iff_apart
      (fun symbol member => (made symbol member).file_eq) distinct now
  · intro separate colonFree
    have owned : (afterEdits edits).Owned := owned_empty.foldl_apply
      (fun edit member => (separate edit member).1) (fun edit member => (separate edit member).2)
    exact owned.apart (belongTo_of_comesFrom made colonFree) distinct

/-! ## Two files with one identifier -/

/-- The symbol `b:c` of the file `a` is stored; its identifier is `a:b:c:1`. -/
def storedFirst : List Edit := [.replaceFile "a" [oneLiner "a" "b:c" 1] 0]

/-- Both files are stored: the symbol `c` of the file `a:b` has the identifier `a:b:c:1`, too. -/
def storedBoth : List Edit := storedFirst ++ [.replaceFile "a:b" [oneLiner "a:b" "c" 1] 0]

/-- Storing the second file puts its symbol in place of the first one's, and dropping the first
file then drops the symbol of the second one. -/
theorem replaceFile_disturbs_other :
    ¬(afterEdits storedFirst).Keeps
        ((afterEdits storedFirst).replaceFile "a:b" [oneLiner "a:b" "c" 1] 0) "a" ∧
      ¬(afterEdits storedBoth).Keeps ((afterEdits storedBoth).removeFile "a") "a:b" := by
  have firstMember : oneLiner "a" "b:c" 1 ∈ (afterEdits storedFirst).inFile "a" := by
    decide +kernel
  have secondMember : oneLiner "a:b" "c" 1 ∈ (afterEdits storedBoth).inFile "a:b" := by
    decide +kernel
  have overwritten : ((afterEdits storedFirst).replaceFile "a:b" [oneLiner "a:b" "c" 1] 0).get?
      (oneLiner "a" "b:c" 1).id ≠ (afterEdits storedFirst).get? (oneLiner "a" "b:c" 1).id := by
    decide +kernel
  have dropped : ((afterEdits storedBoth).removeFile "a").get? (oneLiner "a:b" "c" 1).id ≠
      (afterEdits storedBoth).get? (oneLiner "a:b" "c" 1).id := by
    decide +kernel
  exact ⟨fun keeps => overwritten (keeps.2 _ firstMember),
    fun keeps => dropped (keeps.2 _ secondMember)⟩

/-- Files without colons: storing or dropping `c.ts` leaves `a.ts` as it was. -/
theorem mixedEdits_keeps :
    (afterEdits mixedEdits).Keeps
        ((afterEdits mixedEdits).replaceFile "c.ts" [oneLiner "c.ts" "save" 4] 4) "a.ts" ∧
      (afterEdits mixedEdits).Keeps ((afterEdits mixedEdits).removeFile "c.ts") "a.ts" := by
  have made : (Edit.replaceFile "c.ts" [oneLiner "c.ts" "save" 4] 4).FromFacts := by
    simp [Edit.FromFacts, oneLiner_comesFrom]
  have separate : ∀ edit ∈ mixedEdits, edit.Separate := by decide +kernel
  obtain ⟨keeps, colonFree⟩ := keeps_others_iff mixedEdits
    (show "a.ts" ≠ "c.ts" by decide) _ 4 made
  refine keeps.mpr (colonFree (fun edit member => ?_) (by decide))
  exact ⟨fromFacts_mixedEdits edit member, separate edit member⟩

end SourceAtlas.SymbolTable
