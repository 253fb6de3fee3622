/-
# Capped accrual

A level that grows at a constant rate up to a ceiling. Growing twice is growing
once for the whole time, and a level at its ceiling stays there.
-/

import Mathlib.Algebra.Order.Field.Basic
import Mathlib.Tactic.Linarith

namespace Triton.Lib

universe u

variable {K : Type u} [Field K] [LinearOrder K] [IsStrictOrderedRing K]

/-- The level after `elapsed` time at `rate`, never above `ceiling`. -/
def accrue (rate ceiling level elapsed : K) : K := min (level + elapsed * rate) ceiling

variable {rate ceiling level elapsed : K}

omit [IsStrictOrderedRing K] in
theorem accrue_le_ceiling : accrue rate ceiling level elapsed ≤ ceiling := min_le_right _ _

omit [IsStrictOrderedRing K] in
theorem accrue_le : accrue rate ceiling level elapsed ≤ level + elapsed * rate := min_le_left _ _

theorem accrue_nonneg (paid : 0 ≤ level) (room : 0 ≤ ceiling) (steady : 0 ≤ rate)
    (forward : 0 ≤ elapsed) : 0 ≤ accrue rate ceiling level elapsed :=
  le_min (add_nonneg paid (mul_nonneg forward steady)) room

/-- A full level stays full. -/
theorem accrue_ceiling (steady : 0 ≤ rate) (forward : 0 ≤ elapsed) :
    accrue rate ceiling ceiling elapsed = ceiling := by
  apply min_eq_right
  have gain := mul_nonneg forward steady
  linarith

/-- Growing for one time and then for another is growing for both. -/
theorem accrue_accrue (steady : 0 ≤ rate) {later : K} (forward : 0 ≤ later) :
    accrue rate ceiling (accrue rate ceiling level elapsed) later =
      accrue rate ceiling level (elapsed + later) := by
  have gain := mul_nonneg forward steady
  unfold accrue
  rcases le_total (level + elapsed * rate) ceiling with below | above
  · rw [min_eq_left below, add_mul, add_assoc]
  · rw [min_eq_right above, min_eq_right (by linarith), min_eq_right (by linarith)]

end Triton.Lib
