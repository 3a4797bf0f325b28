import Mathlib.Algebra.Order.Field.Basic
import Mathlib.Algebra.Order.Field.Rat
import Mathlib.Data.Rat.Cast.Order
import SassBridge.Number.Numeral
import SassBridge.Proofs.Number.Rounding

/-! The rational numbers that numerals stand for. A numeral is counted in units that are small enough to leave nothing
over, so that comparing counts is comparing numbers. -/

namespace SassBridge.Numeral

/-- The number that a numeral stands for; infinities and NaN stand for none. -/
def rational? : Numeral → Option ℚ
  | int value => some value
  | float (.finite negative significand exponent) =>
    some ((if negative then -1 else 1) * significand * 2 ^ exponent / 2 ^ Binary64.scale)
  | float _ => none

theorem unit_pos : (0 : ℚ) < 2 ^ Binary64.scale :=
  pow_pos two_pos _

theorem rational?_eq (a : Numeral) :
    a.rational? = a.scaled?.map fun units : Int => (units : ℚ) / 2 ^ Binary64.scale := by
  cases a with
  | int value =>
      rw [rational?, scaled?, Option.map_some, Binary64.unitsPerOne_eq]
      push_cast
      rw [mul_div_cancel_right₀ _ unit_pos.ne']
  | float value =>
      cases value with
      | nan => rfl
      | infinite negative => rfl
      | finite negative significand exponent =>
          cases negative <;>
            simp [rational?, scaled?, Binary64.scaled?, Binary64.magnitude_eq]

/-- The range that a numeral is checked for is a range of numbers. -/
theorem inUnitInterval_iff (a : Numeral) :
    a.inUnitInterval = true ↔ ∃ number, a.rational? = some number ∧ 0 ≤ number ∧ number ≤ 1 := by
  rw [inUnitInterval, rational?_eq]
  cases a.scaled? with
  | none => simp
  | some units =>
      have hlower : (0 : ℚ) ≤ units / 2 ^ Binary64.scale ↔ 0 ≤ units := by
        rw [le_div_iff₀ unit_pos, zero_mul, Int.cast_nonneg_iff]
      have hupper : (units : ℚ) / 2 ^ Binary64.scale ≤ 1 ↔ units ≤ Binary64.unitsPerOne := by
        rw [div_le_one unit_pos, Binary64.unitsPerOne_eq, ← Int.cast_le (R := ℚ)]
        push_cast
        rfl
      simp [hlower, hupper]

end SassBridge.Numeral
