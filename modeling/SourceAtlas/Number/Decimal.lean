import SourceAtlas.Number.Word

/-!
# Decimal numbers

A decimal is a signed significand times a power of ten. `shortest64` and
`shortest32` give, for a finite floating-point number, the decimal with the
fewest digits that lies in the interval of reals rounding to it, and of several
the nearest one; `toFloat` goes the other way.
-/

namespace SourceAtlas

/-- The number `± significand * 10 ^ exponent`. -/
structure Decimal where
  negative : Bool := false
  significand : Nat
  exponent : Int := 0
  deriving DecidableEq, Repr

/-- A positive binary number `mantissa * 2 ^ exponent` with its rounding interval. -/
structure BinaryScale where
  mantissa : Nat
  exponent : Int
  /-- The next smaller number is only half as far away as the next larger one. -/
  narrowBelow : Bool
  deriving DecidableEq, Repr

namespace BinaryScale

/-- Take apart the bits of a number without its sign: `fraction` of them stand behind the point,
and `bias` is the exponent of the last place in the smallest binade. -/
def ofBits (fraction : Nat) (bias : Int) (bits : Nat) : BinaryScale :=
  let tail := bits % Nat.pow 2 fraction
  let exponentField := bits / Nat.pow 2 fraction
  if exponentField = 0 then { mantissa := tail, exponent := bias, narrowBelow := false }
  else
    { mantissa := Nat.pow 2 fraction + tail
      exponent := bias + (exponentField - 1 : Int)
      narrowBelow := tail = 0 ∧ 1 < exponentField }

/-- The size of a finite double. -/
def ofFloat (x : Float) : BinaryScale := ofBits 52 (-1074) (x.toBits.toNat % Word64.half)

/-- The size of a finite single. -/
def ofFloat32 (x : Float32) : BinaryScale := ofBits 23 (-149) (x.toBits.toNat % Word32.half)

/-- An upper bound for the power of ten of the first digit. -/
def topPower (number : BinaryScale) : Int :=
  (number.exponent + (Nat.log2 number.mantissa + 1 : Int)) * 30103 / 100000 + 1

/-- A multiple of `10 ^ power` in the rounding interval, the nearest one to the number when there
are several. All sides are measured in quarters of the last place. -/
def multiple? (number : BinaryScale) (power : Int) : Option Nat :=
  let shift := number.exponent - 2
  let up := Nat.pow 10 power.toNat * Nat.pow 2 (-shift).toNat
  let down := Nat.pow 10 (-power).toNat * Nat.pow 2 shift.toNat
  let centre := 4 * number.mantissa * down
  let low := (4 * number.mantissa - (if number.narrowBelow then 1 else 2)) * down
  let high := (4 * number.mantissa + 2) * down
  let inside := fun (digits : Nat) =>
    if number.mantissa % 2 = 0 then low ≤ digits * up ∧ digits * up ≤ high
    else low < digits * up ∧ digits * up < high
  let below := centre / up
  let above := below + 1
  if 0 < below ∧ inside below then
    if inside above ∧ above * up - centre < centre - below * up then some above else some below
  else if inside above then some above
  else none

/-- Try powers of ten from the largest down. The fuel bounds the number of digits. -/
def shortestFrom (number : BinaryScale) : Nat → Int → Nat × Int
  | 0, power => (number.mantissa, power)
  | fuel + 1, power =>
    match number.multiple? power with
    | some digits => (digits, power)
    | none => number.shortestFrom fuel (power - 1)

/-- The significand and exponent of the shortest decimal in the rounding interval. -/
def shortest (number : BinaryScale) : Nat × Int :=
  if number.mantissa = 0 then (0, 0) else number.shortestFrom 40 number.topPower

end BinaryScale

namespace Decimal

/-- The decimal of an integer. -/
def ofInt (value : Int) : Decimal := { negative := value < 0, significand := value.natAbs }

/-- The shortest decimal of a finite double. -/
def shortest64 (x : Float) : Decimal :=
  let (significand, exponent) := (BinaryScale.ofFloat x).shortest
  { negative := Word64.half ≤ x.toBits.toNat, significand, exponent }

/-- The shortest decimal of a finite single. -/
def shortest32 (x : Float32) : Decimal :=
  let (significand, exponent) := (BinaryScale.ofFloat32 x).shortest
  { negative := Word32.half ≤ x.toBits.toNat, significand, exponent }

/-- The double nearest to a decimal. -/
def toFloat (number : Decimal) : Float :=
  let size := Float.ofScientific number.significand (number.exponent < 0) number.exponent.natAbs
  if number.negative then -size else size

/-- Where positional text gives way to an exponent: the largest number of digits before the point,
and the largest number of zeros behind it. -/
structure TextStyle where
  digitsBefore : Option Nat
  zerosBehind : Option Nat
  deriving DecidableEq, Repr

/-- Text without exponents. -/
def TextStyle.positional : TextStyle := { digitsBefore := none, zerosBehind := none }

/-- Whether a count stays within an optional bound. -/
def within (count : Nat) : Option Nat → Bool
  | some bound => count ≤ bound
  | none => true

/-- The digits without sign; at least one stands on each side of the point. -/
def unsignedText (style : TextStyle) (number : Decimal) : String :=
  let digits := toString number.significand
  let count := digits.length
  let zeros := fun (n : Nat) => String.ofList (List.replicate n '0')
  if number.significand = 0 then "0.0"
  else
    /- The number of digits before the point, negative when zeros follow it. -/
    let point := number.exponent + count
    if 0 ≤ number.exponent ∧ within point.toNat style.digitsBefore then
      digits ++ zeros number.exponent.toNat ++ ".0"
    else if 0 < point ∧ point < count ∧ within point.toNat style.digitsBefore then
      String.ofList (digits.toList.take point.toNat) ++ "." ++
        String.ofList (digits.toList.drop point.toNat)
    else if point ≤ 0 ∧ within (-point).toNat style.zerosBehind then
      "0." ++ zeros (-point).toNat ++ digits
    else
      let head := String.ofList (digits.toList.take 1)
      let tail := if count = 1 then "" else "." ++ String.ofList (digits.toList.drop 1)
      head ++ tail ++ "e" ++ toString (point - 1)

/-- The text of a decimal. -/
def text (style : TextStyle) (number : Decimal) : String :=
  (if number.negative then "-" else "") ++ number.unsignedText style

end Decimal

end SourceAtlas
