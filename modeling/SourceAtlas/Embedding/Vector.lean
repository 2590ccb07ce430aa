/-!
# Vectors and their similarity

Vectors are lists of single precision numbers. Sums run from the first
component to the last, so results are reproducible bit for bit.
-/

namespace SourceAtlas

/-- An embedding of a text. -/
abbrev Embedding := List Float32

namespace Embedding

/-- The running sums of a similarity: the product and the two squared norms. -/
structure Sums where
  dot : Float32 := 0.0
  left : Float32 := 0.0
  right : Float32 := 0.0

/-- Add one pair of components. -/
def Sums.push (sums : Sums) (pair : Float32 × Float32) : Sums where
  dot := sums.dot + pair.1 * pair.2
  left := sums.left + pair.1 * pair.1
  right := sums.right + pair.2 * pair.2

/-- The cosine of the angle between two vectors of one positive length, when it is a finite
number. -/
def cosine? (a b : Embedding) : Option Float32 :=
  if a.length ≠ b.length || a.isEmpty then none
  else
    let sums := (a.zip b).foldl Sums.push {}
    let denominator := sums.left.sqrt * sums.right.sqrt
    if denominator == 0.0 || !denominator.isFinite then none
    else
      let similarity := sums.dot / denominator
      if similarity.isFinite then some similarity else none

/-- A vector scaled to length one; the zero vector stays. -/
def normalized (vector : Embedding) : Embedding :=
  let magnitude := (vector.foldl (fun sum x => sum + x * x) 0.0).sqrt
  if magnitude > 0.0 then vector.map (· / magnitude) else vector

end Embedding

end SourceAtlas
