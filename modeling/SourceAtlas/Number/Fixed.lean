import SourceAtlas.Number.Decimal
import SourceAtlas.Number.Word
import SourceAtlas.Text.Split

/-!
# Fixed places

Numbers with a given number of digits behind the point. The exact value is
rounded to the nearest multiple of the last place, and a half goes to the even
neighbour.
-/

namespace SourceAtlas

/-- The quotient rounded to the nearest integer, a half to the even one. -/
def roundedQuotient (numerator denominator : Nat) : Nat :=
  let below := numerator / denominator
  let twice := 2 * (numerator % denominator)
  if denominator < twice ∨ (twice = denominator ∧ below % 2 = 1) then below + 1 else below

/-- A binary number in units of `10 ^ -places`, rounded. -/
def BinaryScale.inPlaces (number : BinaryScale) (places : Nat) : Nat :=
  roundedQuotient (number.mantissa * Nat.pow 10 places * Nat.pow 2 number.exponent.toNat)
    (Nat.pow 2 (-number.exponent).toNat)

/-- The text of a count of units of `10 ^ -places`. -/
def unitsText (places units : Nat) : String :=
  let digits := Text.padLeft (places + 1) '0' (toString units)
  let whole := digits.length - places
  if places = 0 then digits
  else
    String.ofList (digits.toList.take whole) ++ "." ++ String.ofList (digits.toList.drop whole)

/-- A number with fixed places. The sign stays when everything else is rounded away. -/
def fixedText (places : Nat) (x : Float) : String :=
  let sign := if Word64.half ≤ x.toBits.toNat then "-" else ""
  if x.isNaN then "NaN"
  else if x.isInf then sign ++ "inf"
  else sign ++ unitsText places ((BinaryScale.ofFloat x).inPlaces places)

/-- A single with fixed places. -/
def fixedText32 (places : Nat) (x : Float32) : String := fixedText places x.toFloat

end SourceAtlas
