import Mathlib.Algebra.Order.Floor.Div
import Mathlib.Tactic.Ring
import SourceAtlas.Embedding.Eviction
import SourceAtlas.Number.Fixed

/-!
# The size of a round in doubles

A round of an eviction takes the number of symbols times the double `0.2`,
rounded up, and one symbol at least. That double is a little more than a fifth,
and the exact product of a multiple of five would be rounded up to the next
number. The product is a double again, though: the excess is less than half of
its last place and is gone before anything is rounded up. So `roundSize` counts
the same in whole numbers, for as many symbols as doubles count exactly.
-/

namespace SourceAtlas

/-- What is rounded is at most half a unit away. -/
theorem roundedQuotient_near (numerator : Nat) {unit : Nat} (positive : 0 < unit) :
    2 * (roundedQuotient numerator unit * unit) ≤ 2 * numerator + unit ∧
      2 * numerator ≤ 2 * (roundedQuotient numerator unit * unit) + unit := by
  have parts := Nat.div_add_mod numerator unit
  have below := Nat.mod_lt numerator positive
  have next : (numerator / unit + 1) * unit = unit * (numerator / unit) + unit := by ring
  rw [roundedQuotient]
  split
  next up => rw [next]; omega
  next down => rw [Nat.mul_comm (numerator / unit)]; omega

namespace BinaryScale

/-- The exponent of the last place of the double next to a number: 53 digits are kept, as far as
the smallest place allows. -/
def doublePlace (number : BinaryScale) : Int :=
  max (-1074) (number.exponent + (Nat.log2 number.mantissa + 1 : Int) - 53)

/-- How many of its last places the nearest double has. -/
def doubleUnits (number : BinaryScale) : Nat :=
  let shift := number.exponent - number.doublePlace
  roundedQuotient (number.mantissa * Nat.pow 2 shift.toNat) (Nat.pow 2 (-shift).toNat)

/-- The nearest double, rounded up to a whole number. -/
def ceilDouble (number : BinaryScale) : Nat :=
  (number.doubleUnits * Nat.pow 2 number.doublePlace.toNat) ⌈/⌉
    Nat.pow 2 (-number.doublePlace).toNat

end BinaryScale

namespace MemoryBudget

/-- The double next to a fifth. -/
def fraction : BinaryScale := BinaryScale.ofFloat 0.2

/-- The exact product of a count with the double next to a fifth. -/
def share (count : Nat) : BinaryScale := { fraction with mantissa := count * fraction.mantissa }

/-- The size of a round as doubles compute it. The count is a double itself up to `2 ^ 53`. -/
def roundSizeInDoubles (count : Nat) : Nat := max 1 (share count).ceilDouble

/-- The double next to one fifth. -/
theorem fraction_eq :
    fraction = { mantissa := 7205759403792794, exponent := -55, narrowBelow := false } := by
  decide +kernel

/-- The double next to a fifth is `(2 ^ 55 + 2) / 5` units of `2 ^ -55`. -/
theorem five_mul_share (count : Nat) : 5 * (share count).mantissa = count * (2 ^ 55 + 2) := by
  simp only [share, fraction_eq]
  omega

variable {count product units unit perWhole : Nat}

/-- A product within half a unit of so many units of `2 ^ -55` is rounded up to the fifth of the
count rounded up: it neither reaches the next whole number nor falls back on the last one. -/
theorem ceilDiv_units (whole : perWhole * unit = 2 ^ 55) (fine : 4 ≤ perWhole)
    (exact : 5 * product = count * (2 ^ 55 + 2)) (places : product < unit * 2 ^ 53)
    (near : 2 * (units * unit) ≤ 2 * product + unit ∧ 2 * product ≤ 2 * (units * unit) + unit) :
    units ⌈/⌉ perWhole = (count + 4) / 5 := by
  have coarse : 4 * unit ≤ 2 ^ 55 := by
    rw [← whole]
    exact Nat.mul_le_mul_right unit fine
  have upTo : ∀ bound, units ⌈/⌉ perWhole ≤ bound ↔ units ≤ perWhole * bound := fun bound =>
    ceilDiv_le_iff_le_mul (by omega)
  have wholes : ∀ bound, perWhole * bound * unit = bound * 2 ^ 55 := fun bound => by
    rw [← whole]
    ring
  apply Nat.le_antisymm
  · rw [upTo]
    by_contra above
    have more := Nat.mul_le_mul_right unit (Nat.lt_of_not_le above)
    rw [Nat.succ_mul, wholes] at more
    omega
  · by_contra below
    have few : units ⌈/⌉ perWhole ≤ (count + 4) / 5 - 1 := by omega
    have fewer := Nat.mul_le_mul_right unit ((upTo _).mp few)
    rw [wholes] at fewer
    omega

/-- The next whole number above the share of a round is the fifth, rounded up. -/
theorem ceilDouble_share (some : 0 < count) (few : count ≤ 2 ^ 53) :
    (share count).ceilDouble = (count + 4) / 5 := by
  have exact := five_mul_share count
  have exponent : (share count).exponent = -55 := congrArg BinaryScale.exponent fraction_eq
  have long := Nat.log2_self_le (n := (share count).mantissa) (by omega)
  have short := Nat.lt_log2_self (n := (share count).mantissa)
  rw [BinaryScale.ceilDouble, BinaryScale.doubleUnits, BinaryScale.doublePlace, exponent]
  generalize (share count).mantissa = product at *
  have atLeast : 52 ≤ product.log2 := (Nat.le_log2 (by omega)).mpr (by omega)
  have atMost : product.log2 < 106 := (Nat.log2_lt (by omega)).mpr (by omega)
  have place : max (-1074) (-55 + (product.log2 + 1 : Int) - 53) = product.log2 - 107 := by omega
  have toWhole : (-(product.log2 - 107 : Int)).toNat = 107 - product.log2 := by omega
  have toUnit : (-(-55 - (product.log2 - 107 : Int))).toNat = product.log2 - 52 := by omega
  have noPlace : (product.log2 - 107 : Int).toNat = 0 := by omega
  have noShift : (-55 - (product.log2 - 107 : Int)).toNat = 0 := by omega
  simp only [place, toWhole, toUnit, noPlace, noShift, Nat.pow_eq, pow_zero, Nat.mul_one]
  have unit : 2 ^ (product.log2 + 1) = 2 ^ (product.log2 - 52) * 2 ^ 53 := by
    rw [← pow_add]
    congr 1
    omega
  refine ceilDiv_units ?_ ?_ exact (unit ▸ short)
    (roundedQuotient_near product (Nat.two_pow_pos _))
  · rw [← pow_add]
    congr 1
    omega
  · have twice : 2 ≤ 107 - product.log2 := by omega
    exact Nat.pow_le_pow_right (by decide : 0 < 2) twice

/-- `roundSize` is what doubles compute, for all counts that are doubles. -/
theorem roundSize_eq_inDoubles (some : 0 < count) (few : count ≤ 2 ^ 53) :
    roundSize count = roundSizeInDoubles count := by
  rw [roundSizeInDoubles, ceilDouble_share some few, roundSize]
  omega

end MemoryBudget

end SourceAtlas
