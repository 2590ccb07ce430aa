import SourceAtlas.Number.Fixed

/-!
# Singles of doubles

The single nearest to a double, computed on the exact binary value: it is
rounded to a multiple of the last place of a single, a half to the even
neighbour, and what is too large becomes infinite.
-/

namespace SourceAtlas

namespace BinaryScale

/-- The exponent of the last place of the single next to a number: 24 digits are kept, as far as
the smallest place allows. -/
def singlePlace (number : BinaryScale) : Int :=
  max (-149) (number.exponent + (Nat.log2 number.mantissa + 1 : Int) - 24)

/-- The bits of the nearest single, without the sign. The digits that exceed 23 places carry over
into the exponent. -/
def singleBits (number : BinaryScale) : Nat :=
  let place := number.singlePlace
  let shift := number.exponent - place
  let units := roundedQuotient (number.mantissa * Nat.pow 2 shift.toNat) (Nat.pow 2 (-shift).toNat)
  min ((place + 149).toNat * Nat.pow 2 23 + units) 0x7F800000

end BinaryScale

/-- The single nearest to a double. -/
def nearestSingle (x : Float) : Float32 :=
  let sign := if Word64.half ≤ x.toBits.toNat then Word32.half else 0
  if x.isNaN then 0.0 / 0.0
  else Float32.ofBits (UInt32.ofNat (sign + (BinaryScale.ofFloat x).singleBits))

end SourceAtlas
