import SourceAtlas.Facts
import SourceAtlas.Text.CharClass

/-!
# Symbols

A symbol is a named entity of a file together with the source text around it.
Its identifier joins the file, the name and the first line by colons.
-/

namespace SourceAtlas

/-- An indexed entity. -/
structure Symbol where
  id : String
  name : String
  kind : SymbolKind
  file : String
  startLine : Nat
  endLine : Nat
  signature : Option String
  /-- The lines of the entity. -/
  content : String
  /-- The lines of the entity and its neighbours. -/
  contextWindow : String
  /-- When the symbol was stored, in milliseconds. -/
  indexedAt : Int
  deriving DecidableEq, Repr, Inhabited

namespace Symbol

/-- The identifier of an entity. -/
def makeId (file name : String) (startLine : Nat) : String :=
  file ++ ":" ++ name ++ ":" ++ toString startLine

/-- Lines `first` to `last`, counted from one, as far as they exist. -/
def sliceLines (lines : List String) (first last : Nat) : String :=
  Text.join "\n" ((lines.take last).drop (first - 1))

/-- The symbol of a fact over the lines of its file. A fact starts at line one at the earliest and
never ends before it starts. -/
def ofFact (file : String) (fact : SymbolFact) (lines : List String) (contextLines : Nat)
    (now : Int) : Symbol :=
  let first := max fact.startLine 1
  let last := max fact.endLine first
  { id := makeId file fact.name first
    name := fact.name
    kind := fact.kind
    file
    startLine := first
    endLine := last
    signature := fact.signature
    content := sliceLines lines first last
    contextWindow := sliceLines lines (max (first - contextLines) 1) (last + contextLines)
    indexedAt := now }

/-- The memory charged for a symbol beside its texts. -/
def overheadBytes : Nat := 128

/-- The memory charged for a symbol. -/
def estimatedBytes (symbol : Symbol) : Nat :=
  overheadBytes + symbol.id.utf8ByteSize + symbol.name.utf8ByteSize + symbol.file.utf8ByteSize +
    (symbol.signature.map String.utf8ByteSize).getD 0 + symbol.content.utf8ByteSize +
    symbol.contextWindow.utf8ByteSize

/-- The text that stands for a symbol in semantic search. -/
def embeddingText (symbol : Symbol) : String :=
  match symbol.signature with
  | some signature =>
    symbol.kind.label ++ " " ++ symbol.name ++ " " ++ signature ++ "\n" ++ symbol.content
  | none => symbol.kind.label ++ " " ++ symbol.name ++ "\n" ++ symbol.content

end Symbol

end SourceAtlas
