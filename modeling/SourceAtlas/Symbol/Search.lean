import SourceAtlas.Error
import SourceAtlas.Match.Fuzzy
import SourceAtlas.Match.PathPattern
import SourceAtlas.Number.Word
import SourceAtlas.Symbol.Table

/-!
# Symbol search

Exact search looks for the query inside the names; fuzzy search blends the
match scores of name, kind and path. Results are ranked by score and then by
name, path and line, an order that separates every two symbols of a table.
-/

namespace SourceAtlas

/-- The total order of single precision numbers as an integer: negative zero comes before zero. -/
def floatRank (x : Float32) : Int :=
  let bits := x.toBits.toNat
  if bits < Word32.half then Int.ofNat bits else -(Int.ofNat (bits - Word32.half)) - 1

/-- What to search for. -/
structure SymbolQuery where
  text : String
  kinds : List SymbolKind := []
  fuzzy : Bool := true
  caseSensitive : Bool := false
  limit : Nat := 50
  /-- A path pattern that files must match. -/
  filePattern : Option String := none
  deriving DecidableEq, Repr

/-- A symbol and its score. -/
structure RankedSymbol where
  symbol : Symbol
  score : Float32

namespace SymbolQuery

/-- The least relevance of a fuzzy match. -/
def fuzzyThreshold : Float32 := 0.4
/-- The weight of the name. -/
def nameWeight : Float32 := 0.7
/-- The weight of the kind. -/
def kindWeight : Float32 := 0.2
/-- The weight of the path. -/
def pathWeight : Float32 := 0.1

/-- The form of a text that exact search compares. -/
def fold (query : SymbolQuery) (text : String) : String :=
  if query.caseSensitive then text else Text.lower text

/-- A natural number in single precision. -/
def single (n : Nat) : Float32 := n.toUInt64.toFloat32

/-- A query prepared for fuzzy scoring. -/
structure Scorer where
  atoms : List Fuzzy.Atom
  /-- The score of the query on itself. -/
  selfScore : Float32

/-- Prepare a query text. -/
def scorer (query : SymbolQuery) (text : String) : Scorer :=
  let atoms := Fuzzy.atomsOf text query.caseSensitive
  { atoms
    selfScore := single (max ((Fuzzy.score? atoms (Fuzzy.Units.ofText text)).getD 1) 1) }

/-- The share of the perfect score that a text reaches. -/
def Scorer.field (scorer : Scorer) (text : String) : Float32 :=
  match Fuzzy.score? scorer.atoms (Fuzzy.Units.ofText text) with
  | some score =>
    let share := single score / scorer.selfScore
    if share < 1.0 then share else 1.0
  | none => 0.0

/-- The relevance of a symbol. -/
def Scorer.relevance (scorer : Scorer) (symbol : Symbol) : Float32 :=
  nameWeight * scorer.field symbol.name + kindWeight * scorer.field symbol.kind.label +
    pathWeight * scorer.field symbol.file

/-- The score of a symbol in exact search, when the query occurs in its name. -/
def exactScore? (query : SymbolQuery) (text : String) (symbol : Symbol) : Option Float32 :=
  let needle := query.fold text
  let name := query.fold symbol.name
  if Text.contains needle name then some (single needle.length / single (max name.length 1))
  else none

/-- The score of a symbol for a trimmed query text, when it matches. -/
def score? (query : SymbolQuery) (text : String) : Symbol → Option Float32 :=
  if query.fuzzy then
    let scorer := query.scorer text
    fun symbol =>
      let relevance := scorer.relevance symbol
      if relevance ≥ fuzzyThreshold then some relevance else none
  else query.exactScore? text

/-- Whether a symbol passes the kind filter and the path pattern. -/
def admits (query : SymbolQuery) (pattern : Option PathPattern) (symbol : Symbol) : Bool :=
  (query.kinds.isEmpty || query.kinds.contains symbol.kind) &&
    (pattern.map fun p => p.accepts symbol.file).getD true

/-- The path pattern of a query. -/
def pattern? (query : SymbolQuery) : Except IndexError (Option PathPattern) :=
  match query.filePattern with
  | none => .ok none
  | some text =>
    match PathPattern.parse text with
    | .ok pattern => .ok (some pattern)
    | .error error => .error (.invalidPattern text error.message)

end SymbolQuery

namespace RankedSymbol

/-- The ranking: higher scores first, then by name, path and line. -/
def rank (a b : RankedSymbol) : Ordering :=
  (compare (floatRank b.score) (floatRank a.score)).then <|
    (compare a.symbol.name b.symbol.name).then <|
      (compare a.symbol.file b.symbol.file).then
        (compare a.symbol.startLine b.symbol.startLine)

/-- Whether `a` may stand before `b`. -/
def before (a b : RankedSymbol) : Bool := (rank a b).isLE

end RankedSymbol

namespace SymbolTable

/-- Every match of a query, best first. -/
def ranked (table : SymbolTable) (query : SymbolQuery) (pattern : Option PathPattern) :
    List RankedSymbol :=
  let score := query.score? (Text.trim query.text)
  let found := (table.toList.filter (query.admits pattern)).filterMap fun symbol =>
    (score symbol).map fun score => { symbol, score }
  found.mergeSort RankedSymbol.before

/-- The best matches of a query, at most its limit. A malformed pattern is refused whatever the
text; a blank text or a limit of zero finds nothing. -/
def search (table : SymbolTable) (query : SymbolQuery) : Except IndexError (List RankedSymbol) :=
  match query.pattern? with
  | .error error => .error error
  | .ok pattern =>
    if (Text.trim query.text).isEmpty || query.limit = 0 then .ok []
    else .ok ((table.ranked query pattern).take query.limit)

end SymbolTable

end SourceAtlas
