import Mathlib.Tactic.GCongr
import Mathlib.Tactic.Linarith
import Footfall.Admission.Bucket
import Footfall.Proofs.Scalar
import Footfall.Proofs.Time

/-!
# Buckets in exact rationals

Over the rationals a bucket refills by its capacity in a minute (`Bucket.available_eq`), and taking
a token succeeds exactly when there is one (`Bucket.take_eq`).
-/

namespace Footfall.Admission

/-- The minutes from one moment to another; none when the clock went backwards. -/
def minutes (a b : Moment) : ℚ := elapsed a b / 60000000000

section Minutes

variable {a b c : Moment}

theorem minutes_nonneg (a b : Moment) : 0 ≤ minutes a b :=
  div_nonneg (Nat.cast_nonneg _) (by norm_num)

@[simp] theorem minutes_of_ge (h : b ≤ a) : minutes a b = 0 := by
  simp [minutes, h]

theorem minutes_add (hab : a ≤ b) (hbc : b ≤ c) : minutes a b + minutes b c = minutes a c := by
  rw [minutes, minutes, minutes, ← elapsed_add hab hbc]
  push_cast
  ring

theorem minutes_le_right (h : b ≤ c) : minutes a b ≤ minutes a c := by
  unfold minutes
  gcongr
  exact elapsed_le_right h

theorem minutes_pos (h : a < b) : 0 < minutes a b := by
  have hpos : 0 < elapsed a b := elapsed_pos h
  unfold minutes
  positivity

theorem one_le_minutes {a b : Moment} (h : 60000000000 ≤ elapsed a b) : 1 ≤ minutes a b := by
  rw [minutes, le_div_iff₀ (by norm_num), one_mul]
  exact_mod_cast h

theorem minutes_of_le (h : a ≤ b) : minutes a b = ((b - a : Int) : ℚ) / 1000000000 / 60 := by
  rw [minutes, ← elapsed_of_le h, Int.cast_natCast]
  ring

end Minutes

namespace Bucket

variable (b : Bucket ℚ) (capacity : ℕ) (now : Moment)

theorem available_eq :
    b.available capacity now = min (b.tokens + capacity * minutes b.lastRefill now) capacity := by
  have h : b.available capacity now =
      min (b.tokens + Scalar.seconds (elapsed b.lastRefill now) * (capacity / 60)) capacity := rfl
  rw [h, Scalar.seconds_rat, minutes]
  ring_nf

theorem available_nonneg (h : 0 ≤ b.tokens) : 0 ≤ b.available capacity now := by
  rw [available_eq]
  exact le_min (add_nonneg h (mul_nonneg (Nat.cast_nonneg _) (minutes_nonneg _ _)))
    (Nat.cast_nonneg _)

@[simp] theorem available_full :
    (full capacity now : Bucket ℚ).available capacity now = capacity := by
  simp [available_eq, full]

theorem refill_eq :
    b.refill capacity now = ⟨b.available capacity now, max b.lastRefill now⟩ := by
  rw [refill, max_def_lt]

/-- A token is given when there is one, and is then gone. -/
theorem take_eq :
    b.take capacity now = (decide (1 ≤ b.available capacity now),
      ⟨b.available capacity now - if 1 ≤ b.available capacity now then 1 else 0,
        max b.lastRefill now⟩) := by
  have one : (Scalar.ofNat 1 : ℚ) = 1 := rfl
  rw [take, refill_eq]
  by_cases h : 1 ≤ b.available capacity now
  · simp only [one, h, if_true, decide_true]
  · simp [one, h]

theorem take_nonneg (h : 0 ≤ b.tokens) : 0 ≤ (b.take capacity now).2.tokens := by
  have hnonneg := b.available_nonneg capacity now h
  rw [take_eq]
  by_cases h1 : 1 ≤ b.available capacity now
  · simpa only [h1, if_true] using sub_nonneg.2 h1
  · simpa only [h1, if_false, sub_zero] using hnonneg

end Bucket

end Footfall.Admission
