import Mathlib.Data.Int.Notation
import Mathlib.Data.Nat.Notation

/-!
# Numbers and their digits

Labels and hashed texts contain whole numbers as decimal digits. A number can be told from its
digits (`toString_inj`): a natural one because its digits have its value, and a negative one because
a sign is no digit.
-/

namespace Footfall.Text

theorem natRepr_injective : Function.Injective Nat.repr := by
  intro m n h
  have hdigits := congrArg (fun s => Nat.ofDigitChars 10 s.toList 0) h
  simpa [Nat.toList_repr, Nat.ofDigitChars_toDigits] using hdigits

/-- A sign is no digit. -/
theorem natRepr_ne_negative (m n : ℕ) : m.repr ≠ "-" ++ n.repr := by
  intro h
  have hsign : '-' ∈ m.repr.toList := by simp [h]
  rw [Nat.toList_repr] at hsign
  exact absurd (Nat.isDigit_of_mem_toDigits (by decide) (by decide) hsign) (by decide)

theorem intRepr_injective : Function.Injective Int.repr := by
  intro m n h
  match m, n with
  | .ofNat m, .ofNat n => exact congrArg Int.ofNat (natRepr_injective h)
  | .ofNat m, .negSucc n => exact absurd h (natRepr_ne_negative _ _)
  | .negSucc m, .ofNat n => exact absurd h.symm (natRepr_ne_negative _ _)
  | .negSucc m, .negSucc n =>
    have hsucc := natRepr_injective ((String.append_right_inj "-").1 h)
    rw [Nat.succ.inj hsucc]

/-- **A number can be told from its digits.** -/
theorem toString_inj {m n : ℤ} : toString m = toString n ↔ m = n := by
  rw [Int.toString_eq_repr, Int.toString_eq_repr]
  exact intRepr_injective.eq_iff

end Footfall.Text
