import Mathlib.Data.Int.Log
import Mathlib.Data.Rat.Floor

namespace Bottlecap
namespace Foundations

/-!
# Rounding to binary64

The result of an operation on `f64` is the number of 53 binary digits next to the
exact one, halves to the even neighbour, with the fixed spacing of the subnormal
numbers near zero.  The exponent has no upper bound here: a result too large for
`f64` stays finite.
-/

/-- The nearest integer, the even one of two. -/
def roundHalfEven (value : Rat) : Int :=
  if value - value.floor < 1 / 2 ∨ value - value.floor = 1 / 2 ∧ value.floor % 2 = 0 then
    value.floor
  else value.floor + 1

/-- The spacing of the numbers around a magnitude. -/
def ulp (magnitude : Rat) : Rat := 2 ^ max (Int.log 2 magnitude - 52) (-1074)

def roundMagnitude (magnitude : Rat) : Rat :=
  roundHalfEven (magnitude / ulp magnitude) * ulp magnitude

def roundF64 (value : Rat) : Rat :=
  if value < 0 then -roundMagnitude (-value) else roundMagnitude value

/-- The product of two `f64`. -/
def mulF64 (first second : Rat) : Rat := roundF64 (first * second)

theorem le_roundHalfEven {whole : Int} {value : Rat} (below : whole <= value) :
    whole <= roundHalfEven value := by
  have floor : whole <= value.floor := Rat.le_floor_iff.mpr below
  rw [roundHalfEven]
  split <;> omega

/-- Rounding does not pass the power of two below a number. -/
theorem one_le_roundMagnitude {magnitude : Rat} (large : 1 <= magnitude) :
    1 <= roundMagnitude magnitude := by
  have power : (2 : Rat) ^ Int.log 2 magnitude <= magnitude :=
    Int.zpow_log_le_self one_lt_two (by linarith)
  have exponent : 0 <= Int.log 2 magnitude := by
    rw [Int.log_of_one_le_right _ large]
    exact Int.natCast_nonneg _
  have spacing : ulp magnitude = 2 ^ Int.log 2 magnitude / 2 ^ 52 := by
    rw [ulp, max_eq_left (by omega), zpow_sub₀ two_ne_zero]
    rfl
  have positive : 0 < ulp magnitude := zpow_pos two_pos _
  have digits : ((2 ^ 52 : Int) : Rat) <= magnitude / ulp magnitude := by
    rw [le_div_iff₀ positive, spacing]
    push_cast
    linarith
  have rounded : ((2 ^ 52 : Int) : Rat) <= roundHalfEven (magnitude / ulp magnitude) :=
    Int.cast_le.mpr (le_roundHalfEven digits)
  calc (1 : Rat) <= 2 ^ Int.log 2 magnitude := one_le_zpow₀ one_le_two exponent
    _ = ((2 ^ 52 : Int) : Rat) * ulp magnitude := by
      rw [spacing]
      push_cast
      linarith
    _ <= roundMagnitude magnitude := mul_le_mul_of_nonneg_right rounded positive.le

theorem one_le_abs_roundF64 {value : Rat} (large : 1 <= |value|) : 1 <= |roundF64 value| := by
  rw [roundF64]
  split
  case isTrue negative =>
    rw [abs_of_neg negative] at large
    rw [abs_neg]
    exact (one_le_roundMagnitude large).trans (le_abs_self _)
  case isFalse nonnegative =>
    rw [abs_of_nonneg (le_of_not_gt nonnegative)] at large
    exact (one_le_roundMagnitude large).trans (le_abs_self _)

theorem roundF64_zero : roundF64 0 = 0 := by
  have zero : roundHalfEven 0 = 0 := by decide +kernel
  rw [roundF64, if_neg (lt_irrefl 0), roundMagnitude, zero_div, zero, Int.cast_zero, zero_mul]

/-- An integer other than zero times a number that is not small. -/
theorem one_le_abs_mulF64 {whole : Int} {factor : Rat} (away : whole ≠ 0) (large : 1 <= factor) :
    1 <= |mulF64 (roundF64 whole) factor| := by
  have rounded : 1 <= |roundF64 whole| := by
    apply one_le_abs_roundF64
    exact_mod_cast Int.one_le_abs away
  apply one_le_abs_roundF64
  rw [abs_mul]
  exact one_le_mul_of_one_le_of_one_le rounded (large.trans (le_abs_self factor))

/-- The `f64` next to `0.000001`, a little less than it. -/
example : mulF64 (4722366482869645 / 2 ^ 72) 1000000 = 1 := by decide +kernel

end Foundations
end Bottlecap
