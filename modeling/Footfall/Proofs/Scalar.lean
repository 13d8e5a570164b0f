import Mathlib.Algebra.Order.Field.Rat
import Mathlib.Tactic.FieldSimp
import Mathlib.Tactic.Linarith
import Mathlib.Tactic.NormNum
import Mathlib.Tactic.Positivity
import Mathlib.Tactic.Ring
import Footfall.Scalar

/-!
# Rates in exact rationals

The arithmetic of rates, read over the rationals, is the usual one: numbers are embedded
(`Scalar.ofInt_rat`, `Scalar.ofNat_rat`), the smaller of two numbers is their minimum
(`Scalar.min_rat`), a duration in nanoseconds is a fraction of seconds (`Scalar.seconds_rat`), and a
part of a whole is between 0 and 100 percent of it (`Scalar.percent_mem_Icc`).
-/

namespace Footfall.Scalar

@[simp] theorem ofInt_rat (n : ℤ) : (ofInt n : ℚ) = n := rfl

@[simp] theorem ofNat_rat (n : ℕ) : (ofNat n : ℚ) = n := rfl

@[simp] theorem min_rat (a b : ℚ) : Scalar.min a b = Min.min a b := rfl

theorem seconds_rat (nanos : ℕ) : (seconds nanos : ℚ) = nanos / 1000000000 := by
  have h : (nanos : ℚ) = 1000000000 * (nanos / 1000000000 : ℕ) + (nanos % 1000000000 : ℕ) := by
    exact_mod_cast (Nat.div_add_mod nanos 1000000000).symm
  change ((nanos / 1000000000 : ℕ) : ℚ) + (nanos % 1000000000 : ℕ) / (1000000000 : ℕ) = _
  rw [h]
  field_simp
  ring

theorem percent_rat (part whole : ℕ) : (percent part whole : ℚ) = 100 * part / whole := by
  rw [percent]
  split_ifs with hwhole
  · simp [hwhole]
  · rfl

/-- A part of a whole lies between nothing and all of it. -/
theorem percent_mem_Icc {part whole : ℕ} (h : part ≤ whole) :
    (percent part whole : ℚ) ∈ Set.Icc 0 100 := by
  rw [percent_rat, mul_div_assoc]
  have hpart : (part : ℚ) / whole ≤ 1 := div_le_one_of_le₀ (by exact_mod_cast h) (by positivity)
  have hnonneg : (0 : ℚ) ≤ part / whole := by positivity
  constructor <;> linarith

end Footfall.Scalar
