import SourceAtlas.Digest.KeyedHash
import SourceAtlas.Embedding.Provider
import SourceAtlas.Text.CharClass

/-!
# Hashed bag of words

A provider without a model: each word of a text adds to the coordinate its
hash selects, and the vector is scaled to length one. Words end at characters
that are neither letters nor numbers, and before a capital behind a small
letter or a digit.
-/

namespace SourceAtlas

/-- A hashed bag-of-words embedder. -/
structure HashingEmbedder where
  dimension : Nat
  /-- Texts with this marker are refused. -/
  failOn : Option String := none
  /-- How long every call takes, in milliseconds. -/
  delay : Option Nat := none
  deriving DecidableEq, Repr

namespace HashingEmbedder

/-- An embedder of at least one dimension. -/
def ofDimension (dimension : Nat) : HashingEmbedder := { dimension := max dimension 1 }

/-- The state of cutting a run of letters and numbers into words: the finished words, latest first,
and the open word backwards. -/
structure Cutter where
  done : List (List Char) := []
  word : List Char := []
  afterSmall : Bool := false

/-- Close the open word. -/
def Cutter.close (cutter : Cutter) : Cutter :=
  if cutter.word.isEmpty then { cutter with afterSmall := false }
  else { done := cutter.word.reverse :: cutter.done, word := [], afterSmall := false }

/-- Take in one character. -/
def Cutter.push (cutter : Cutter) (c : Char) : Cutter :=
  if !Text.isLetterOrNumber c then cutter.close
  else
    let cutter := if Text.isUpper c && cutter.afterSmall then cutter.close else cutter
    { cutter with
      word := (Text.lowerChars c).reverse ++ cutter.word
      afterSmall := Text.isLower c || c.isDigit }

/-- The words of a text in lower case. -/
def wordsOf (text : String) : List String :=
  ((text.toList.foldl Cutter.push {}).close.done.reverse).map String.ofList

/-- The coordinate of a word. -/
def bucket (embedder : HashingEmbedder) (word : String) : Nat :=
  (Digest.KeyedHash.hashText word).toNat % embedder.dimension

/-- The vector of a text. -/
def vector (embedder : HashingEmbedder) (text : String) : Embedding :=
  let counts := (wordsOf text).foldl
    (fun (counts : Array Float32) word => counts.modify (embedder.bucket word) (· + 1.0))
    (Array.replicate embedder.dimension 0.0)
  Embedding.normalized counts.toList

/-- Why a list of texts is refused, if it is. -/
def refusal? (embedder : HashingEmbedder) (texts : List String) : Option ProviderFailure :=
  match embedder.failOn with
  | some marker =>
    if texts.any (Text.contains marker) then
      some { reason := "mock embedder refused input containing '" ++ marker ++ "'" }
    else none
  | none => none

/-- The embedder as a provider; its state counts the calls. -/
def provider (embedder : HashingEmbedder) : Provider Nat where
  dimension := embedder.dimension
  maxBatch := 1000
  embed texts calls :=
    match embedder.refusal? texts with
    | some failure => (.error failure, calls + 1)
    | none => (.ok (texts.map embedder.vector), calls + 1)
  embedQuery query calls :=
    match embedder.refusal? [query] with
    | some failure => (.error failure, calls + 1)
    | none => (.ok (embedder.vector query), calls + 1)
  queryDelay := embedder.delay
  health calls := (.healthy, calls)

end HashingEmbedder

end SourceAtlas
