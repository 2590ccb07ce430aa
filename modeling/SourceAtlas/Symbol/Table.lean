import SourceAtlas.Graph.Basic
import SourceAtlas.Symbol.Basic

/-!
# The symbol table

Symbols by identifier, with look-ups by name, file and kind. Each look-up map
holds sets of identifiers and no empty set.
-/

namespace SourceAtlas

/-- Sets of identifiers under text keys. -/
abbrev Buckets := FileMap FileSet

namespace Buckets

/-- Put an identifier under a key. -/
def add (buckets : Buckets) (key id : String) : Buckets :=
  buckets.alter key fun known => some ((known.getD ∅).insert id)

/-- Take an identifier from under a key; an empty set goes with it. -/
def drop (buckets : Buckets) (key id : String) : Buckets :=
  buckets.alter key fun
    | some known =>
      let rest := known.erase id
      if rest.isEmpty then none else some rest
    | none => none

/-- The identifiers under a key, in order. -/
def ids (buckets : Buckets) (key : String) : List String :=
  ((buckets[key]?).getD ∅).toList

end Buckets

/-- The symbols of an index. -/
structure SymbolTable where
  symbols : FileMap Symbol := ∅
  byName : Buckets := ∅
  byFile : Buckets := ∅
  /-- Keyed by the written name of the kind. -/
  byKind : Buckets := ∅
  lastUpdated : Int := 0
  deriving DecidableEq

/-- Figures of a symbol table. -/
structure SymbolStats where
  symbolCount : Nat
  fileCount : Nat
  /-- Kinds that occur, in display order. -/
  byKind : List (SymbolKind × Nat)
  lastUpdated : Int
  deriving DecidableEq, Repr

namespace SymbolTable

/-- The table without symbols. -/
def empty : SymbolTable := {}

/-- Add a symbol under all four keys. -/
def insert (table : SymbolTable) (symbol : Symbol) : SymbolTable :=
  { table with
    symbols := table.symbols.insert symbol.id symbol
    byName := table.byName.add symbol.name symbol.id
    byFile := table.byFile.add symbol.file symbol.id
    byKind := table.byKind.add symbol.kind.label symbol.id }

/-- The table of a list of symbols. -/
def ofSymbols (symbols : List Symbol) (lastUpdated : Int) : SymbolTable :=
  { symbols.foldl insert empty with lastUpdated }

/-- Drop a symbol from the maps other than `byFile`. -/
def forget (table : SymbolTable) (id : String) : SymbolTable :=
  match table.symbols[id]? with
  | some symbol =>
    { table with
      symbols := table.symbols.erase id
      byName := table.byName.drop symbol.name id
      byKind := table.byKind.drop symbol.kind.label id }
  | none => table

/-- The identifiers stored for a file, in order. -/
def idsOfFile (table : SymbolTable) (file : String) : List String := table.byFile.ids file

/-- Take out everything stored for a file: the identifiers that go, in order, and the table
without them. -/
def takeFile (table : SymbolTable) (file : String) : List String × SymbolTable :=
  let removed := table.idsOfFile file
  (removed, removed.foldl forget { table with byFile := table.byFile.erase file })

/-- Drop everything stored for a file. -/
def removeFile (table : SymbolTable) (file : String) : SymbolTable := (table.takeFile file).2

/-- Drop one symbol. -/
def removeSymbol (table : SymbolTable) (id : String) : SymbolTable :=
  match table.symbols[id]? with
  | some symbol => { table.forget id with byFile := table.byFile.drop symbol.file id }
  | none => table

/-- Of symbols with one identifier keep the first. -/
def firstById (seen : FileSet) : List Symbol → List Symbol
  | [] => []
  | symbol :: rest =>
    if seen.contains symbol.id then firstById seen rest
    else symbol :: firstById (seen.insert symbol.id) rest

/-- Store the symbols of a file in place of the earlier ones: the identifiers that go, in order,
and the table that is left. -/
def exchangeFile (table : SymbolTable) (file : String) (symbols : List Symbol) (now : Int) :
    List String × SymbolTable :=
  let (removed, rest) := table.takeFile file
  (removed, { (firstById ∅ symbols).foldl insert rest with lastUpdated := now })

/-- Store the symbols of a file in place of the earlier ones. -/
def replaceFile (table : SymbolTable) (file : String) (symbols : List Symbol) (now : Int) :
    SymbolTable :=
  (table.exchangeFile file symbols now).2

/-- The symbol of an identifier. -/
def get? (table : SymbolTable) (id : String) : Option Symbol := table.symbols[id]?

/-- Whether an identifier is stored. -/
def contains (table : SymbolTable) (id : String) : Bool := table.symbols.contains id

/-- Every identifier in order. -/
def ids (table : SymbolTable) : List String := table.symbols.keys

/-- Every symbol in the order of the identifiers. -/
def toList (table : SymbolTable) : List Symbol := table.symbols.values

/-- The number of symbols. -/
def size (table : SymbolTable) : Nat := table.symbols.size

/-- The symbols of a list of identifiers. -/
def lookup (table : SymbolTable) (ids : List String) : List Symbol := ids.filterMap table.get?

/-- The symbols of a name, in the order of the identifiers. -/
def named (table : SymbolTable) (name : String) : List Symbol :=
  table.lookup (table.byName.ids name)

/-- The symbols of a kind, in the order of the identifiers. -/
def ofKind (table : SymbolTable) (kind : SymbolKind) : List Symbol :=
  table.lookup (table.byKind.ids kind.label)

/-- Order by first line and then by last line. -/
def lineOrder (a b : Symbol) : Bool :=
  a.startLine < b.startLine || (a.startLine == b.startLine && a.endLine ≤ b.endLine)

/-- The symbols of a file from top to bottom. -/
def inFile (table : SymbolTable) (file : String) : List Symbol :=
  (table.lookup (table.idsOfFile file)).mergeSort lineOrder

/-- Every file with symbols, in order. -/
def files (table : SymbolTable) : List String := table.byFile.keys

/-- Whether a file has symbols. -/
def hasFile (table : SymbolTable) (file : String) : Bool := table.byFile.contains file

/-- The number of files with symbols. -/
def fileCount (table : SymbolTable) : Nat := table.byFile.size

/-- Figures of the table. -/
def stats (table : SymbolTable) : SymbolStats where
  symbolCount := table.size
  fileCount := table.fileCount
  byKind := SymbolKind.all.filterMap fun kind =>
    (table.byKind[kind.label]?).map fun ids => (kind, ids.size)
  lastUpdated := table.lastUpdated

end SymbolTable

end SourceAtlas
