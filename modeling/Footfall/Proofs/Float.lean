import Mathlib.Algebra.Order.Ring.Int
import Mathlib.Tactic.NormNum.Basic
import Mathlib.Tactic.Ring

/-!
# Whole numbers as floating point

A whole number of 64 bits becomes a finite floating-point number, positive or negative: its
magnitude is far below the largest one. The model of floating point unpacks its arguments into a
mantissa and an exponent, rounds the result and packs it again, so this is a bound on exponents.

* Rounding drops bits of the mantissa and adds as many to the exponent, so the exponent grows by no
  more than there are bits (`exponentAtMost_roundWithAccuracy`).
* A number with a small exponent is finite after packing, and its mantissa has 53 bits
  (`isSmall_unpack_pack`).
* A number of up to 53 bits is multiplied by one (`isSmall_ofNat_of_lt`), a longer one is rounded at
  once (`isSmall_ofNat_of_le`).

`isFinite_ofInt` is what follows for integers. The bounds on the way are far from tight: 971 is the
largest exponent there is.
-/

namespace Footfall

open Float.Model Float.Model.UnpackedFloat

/-- The number is zero, or it is finite with an exponent up to a bound. -/
inductive ExponentAtMost (bound : ℤ) : UnpackedFloat → Prop
  | zero {s} : ExponentAtMost bound (.zero s)
  | finite {s m e hpos} (exponent_le : e ≤ bound) : ExponentAtMost bound (.finite s m e hpos)

/-- The number is zero, or it is finite with a mantissa of at most 53 bits and an exponent up to a
bound. -/
inductive IsSmall (bound : ℤ) : UnpackedFloat → Prop
  | zero {s} : IsSmall bound (.zero s)
  | finite {s m e hpos} (mantissa_lt : m < 2 ^ 53) (exponent_le : e ≤ bound) :
      IsSmall bound (.finite s m e hpos)

variable {bound bound' : ℤ} {u v : UnpackedFloat}

theorem ExponentAtMost.mono (h : ExponentAtMost bound u) (hle : bound ≤ bound') :
    ExponentAtMost bound' u := by
  cases h with
  | zero => exact .zero
  | finite he => exact .finite (he.trans hle)

theorem ExponentAtMost.neg (h : ExponentAtMost bound u) : ExponentAtMost bound u.neg := by
  cases h with
  | zero => exact .zero
  | finite he => exact .finite he

theorem IsSmall.exponentAtMost (h : IsSmall bound u) : ExponentAtMost bound u := by
  cases h with
  | zero => exact .zero
  | finite _ he => exact .finite he

theorem IsSmall.isFinite (h : IsSmall bound u) : u.isFinite = true := by
  cases h <;> rfl

/-! ## Rounding -/

theorem mantissa_shiftRight_le (em : ExtendedMantissa) (n : ℕ) :
    (em >>> n).mantissa ≤ em.mantissa := by
  change (n.repeat ExtendedMantissa.shiftRightOne em).mantissa ≤ em.mantissa
  induction n with
  | zero => exact le_refl _
  | succ n ih => exact (Nat.div_le_self _ _).trans ih

theorem roundedMantissa_le (em : ExtendedMantissa) : em.roundedMantissa ≤ em.mantissa + 1 := by
  obtain ⟨m, _ | _, _ | _⟩ := em <;>
    simp only [ExtendedMantissa.roundedMantissa, ExtendedMantissa.accuracy,
      Accuracy.roundToNearestEven] <;> omega

theorem mantissa_ofMantissaAndAccuracy (m : ℕ) (acc : Accuracy) :
    (ExtendedMantissa.ofMantissaAndAccuracy m acc).mantissa = m := by
  rcases acc with _ | _ | _ | _ <;> rfl

/-- Moving a number to its target exponent makes its mantissa no longer, and moves the exponent by
no more than there are bits. -/
theorem shiftToTargetExponent_le {k m : ℕ} {e bound : ℤ} (acc : Accuracy) (hm : m < 2 ^ k)
    (he : e ≤ bound) (hbound : -1074 ≤ bound) :
    (shiftToTargetExponent Format.binary64 m e acc).1.mantissa ≤ m ∧
      (shiftToTargetExponent Format.binary64 m e acc).2 ≤ bound + k := by
  refine ⟨?_, ?_⟩
  · exact (mantissa_shiftRight_le _ _).trans (mantissa_ofMantissaAndAccuracy m acc).le
  · have hlog : m.log2 ≤ k := by
      by_cases hzero : m = 0
      · simp [hzero]
      · exact ((Nat.log2_lt hzero).2 hm).le
    have hbits : Format.binary64.mantissaBits = 53 := rfl
    have hmin : Format.binary64.minExponent = -1074 := by decide
    simp only [shiftToTargetExponent, shiftToExponent, Format.targetExponent, totalExponent, hbits,
      hmin]
    omega

/-- **Rounding keeps the exponent small.** -/
theorem exponentAtMost_roundWithAccuracy (s : Sign) {k m : ℕ} {e bound : ℤ} (acc : Accuracy)
    (hm : m < 2 ^ k) (he : e ≤ bound) (hbound : -1074 ≤ bound) :
    ExponentAtMost (bound + (2 * k + 1)) (roundWithAccuracy Format.binary64 s m e acc) := by
  obtain ⟨hm₁, he₁⟩ := shiftToTargetExponent_le acc hm he hbound
  have hrounded :
      (shiftToTargetExponent Format.binary64 m e acc).1.roundedMantissa < 2 ^ (k + 1) := by
    have hle := roundedMantissa_le (shiftToTargetExponent Format.binary64 m e acc).1
    have hpow : 2 ^ (k + 1) = 2 ^ k + 2 ^ k := by ring
    omega
  obtain ⟨-, he₂⟩ := shiftToTargetExponent_le .exact hrounded he₁ (by omega)
  set first := shiftToTargetExponent Format.binary64 m e acc
  set final := shiftToTargetExponent Format.binary64 first.1.roundedMantissa first.2 .exact
  have hround : roundWithAccuracy Format.binary64 s m e acc =
      if h : final.1.mantissa = 0 then .zero s
      else .finite s final.1.mantissa final.2 (Nat.pos_of_ne_zero h) := rfl
  rw [hround]
  by_cases hzero : final.1.mantissa = 0
  · rw [dif_pos hzero]
    exact .zero
  · rw [dif_neg hzero]
    refine .finite ?_
    push_cast at he₂
    omega

/-! ## Packing -/

theorem isSmall_unpack {b : BitVec Format.binary64.numBits} (hbound : -1074 ≤ bound)
    (h : ((unpackExponent b).toNat : ℤ) ≤ bound + 1075) (hb : unpackExponent b ≠ -1#_) :
    IsSmall bound (unpack Format.binary64 b) := by
  have hbias : ((Format.binary64.exponentBias : ℕ) : ℤ) = 1023 := rfl
  have hbits : ((Format.binary64.mantissaBitsWithoutImplicit : ℕ) : ℤ) = 52 := rfl
  unfold UnpackedFloat.unpack
  rw [if_neg hb]
  by_cases hzero : unpackExponent b = 0#_
  · rw [if_pos hzero]
    by_cases hmantissa : unpackMantissa b = 0#_
    · rw [dif_pos hmantissa]
      exact .zero
    · have hexponent : (unpackExponent b).toNat = 0 := by rw [hzero]; rfl
      rw [dif_neg hmantissa]
      refine .finite ((unpackMantissa b).isLt.trans (by decide)) ?_
      rw [hbias, hbits, hexponent]
      omega
  · rw [if_neg hzero]
    refine .finite (1#1 ++ unpackMantissa b).isLt ?_
    rw [hbias, hbits]
    omega

theorem isSmall_unpack_packComponents (s : Sign) {n : ℕ} (mantissa : BitVec 52)
    (hn : (n : ℤ) ≤ bound + 1075) (hmin : -1074 ≤ bound) (hmax : bound ≤ 971) :
    IsSmall bound (unpack Format.binary64
      (packComponents Format.binary64 s (BitVec.ofNat 11 n) mantissa)) := by
  have htoNat : (BitVec.ofNat 11 n).toNat = n := by
    rw [BitVec.toNat_ofNat, Nat.mod_eq_of_lt]
    omega
  refine isSmall_unpack hmin ?_ ?_ <;> rw [unpackExponent_packComponents]
  · exact (congrArg Nat.cast htoNat).trans_le hn
  · intro heq
    have hones := congrArg BitVec.toNat heq
    rw [htoNat] at hones
    simp at hones
    omega

/-- **A number with a small exponent stays finite** when it is packed into 64 bits. -/
theorem isSmall_unpack_pack (h : ExponentAtMost bound u) (hmin : -1074 ≤ bound)
    (hmax : bound ≤ 971) :
    IsSmall bound (unpack Format.binary64 (pack Format.binary64 u)) := by
  have hbias : ((Format.binary64.exponentBias : ℕ) : ℤ) = 1023 := rfl
  have hbits : ((Format.binary64.mantissaBitsWithoutImplicit : ℕ) : ℤ) = 52 := rfl
  have hpow : 2 ^ Format.binary64.exponentBits = 2048 := rfl
  have hzero : ((0 : ℕ) : ℤ) ≤ bound + 1075 := by omega
  cases h with
  | zero => exact isSmall_unpack_packComponents _ _ hzero hmin hmax
  | finite he =>
    unfold UnpackedFloat.pack
    dsimp only
    rw [hbias, hbits]
    rw [if_neg (by omega)]
    split_ifs
    · exact isSmall_unpack_packComponents _ _ (by omega) hmin hmax
    · exact isSmall_unpack_packComponents _ _ hzero hmin hmax

theorem mul_finite {s t : Sign} {m m' : ℕ} {e e' : ℤ} {hpos hpos'} :
    mul Format.binary64 (.finite s m e hpos) (.finite t m' e' hpos') =
      roundWithAccuracy Format.binary64 (s * t) (m * m') (e + e') .exact := rfl

/-- The product of two small numbers has a small exponent. -/
theorem exponentAtMost_mul (hu : IsSmall bound u) (hv : IsSmall bound' v)
    (h : -1074 ≤ bound + bound') :
    ExponentAtMost (bound + bound' + 213) (mul Format.binary64 u v) := by
  cases hu with
  | zero => cases hv <;> exact .zero
  | finite hm he =>
    cases hv with
    | zero => exact .zero
    | finite hm' he' =>
      have hproduct := Nat.mul_lt_mul_of_lt_of_lt hm hm'
      rw [← pow_add] at hproduct
      rw [mul_finite]
      exact exponentAtMost_roundWithAccuracy _ .exact hproduct (Int.add_le_add he he') h

/-! ## Whole numbers -/

theorem exponentAtMost_ofNat {n : ℕ} (h : n < 2 ^ 64) :
    ExponentAtMost 233 (UnpackedFloat.ofNat Format.binary64 n) := by
  rcases Nat.eq_zero_or_pos n with rfl | hpos
  · exact .zero
  have hround : UnpackedFloat.ofNat Format.binary64 n =
      UnpackedFloat.round Format.binary64 .positive n 0 := by
    have hcompare : compare (n : ℤ) 0 = .gt := compare_gt_iff_gt.2 (by exact_mod_cast hpos)
    rw [UnpackedFloat.ofNat, UnpackedFloat.ofInt, UnpackedFloat.normalize, hcompare,
      Int.toNat_natCast]
  have hbits : Format.binary64.mantissaBits = 53 := rfl
  have hmin : Format.binary64.minExponent = -1074 := by decide
  rw [hround, UnpackedFloat.round]
  -- the number is moved up by fewer than 53 places
  set shift := (0 - Format.binary64.targetExponent (totalExponent n 0)).toNat with hshift
  have hle : shift ≤ 52 := by
    rw [hshift, Format.targetExponent, totalExponent, hbits, hmin]
    omega
  have hmantissa : n <<< shift < 2 ^ 116 := by
    rw [Nat.shiftLeft_eq]
    calc n * 2 ^ shift < 2 ^ 64 * 2 ^ shift := Nat.mul_lt_mul_of_pos_right h (Nat.two_pow_pos _)
      _ ≤ 2 ^ 64 * 2 ^ 52 := Nat.mul_le_mul_left _ (Nat.pow_le_pow_right (by decide) hle)
      _ = 2 ^ 116 := by decide
  have hexponent : (0 : ℤ) - shift ≤ 0 := by omega
  exact exponentAtMost_roundWithAccuracy .positive .exact hmantissa hexponent (by decide)

/-- A number of 53 bits is multiplied by one. -/
theorem isSmall_ofNat_of_lt {n : ℕ} (h : n < 2 ^ 53) :
    IsSmall 394 (Float.ofNat n).toModel.unpack := by
  have hbits : n < 2 ^ 64 := h.trans (by decide)
  have hone : IsSmall (-52) (Float.ofBits 0x3FF0000000000000).toModel.unpack := by
    have hunpack : (Float.ofBits 0x3FF0000000000000).toModel.unpack =
        .finite .positive (2 ^ 52) (-52) (by decide) := rfl
    rw [hunpack]
    exact .finite (by decide) (le_refl _)
  have hn : IsSmall 233 n.toUInt64.toFloat.toModel.unpack := by
    have htoNat : n.toUInt64.toNat = n := Nat.mod_eq_of_lt hbits
    have hsmall := exponentAtMost_ofNat hbits
    rw [← htoNat] at hsmall
    exact isSmall_unpack_pack hsmall (by decide) (by decide)
  have hfloat : Float.ofNat n = n.toUInt64.toFloat * Float.ofBits 0x3FF0000000000000 := by
    change Float.ofScientific n false 0 = _
    rw [Float.ofScientific, dif_pos ⟨h, by decide⟩]
    rfl
  rw [hfloat]
  exact isSmall_unpack_pack (exponentAtMost_mul hn hone (by decide)) (by decide) (by decide)

theorem ofScientific_zero {n : ℕ} (hn : n ≠ 0) :
    UnpackedFloat.ofScientific Format.binary64 n 0 =
      roundWithAccuracy Format.binary64 .positive (n <<< 53) (-53) .exact := by
  have hbits : ((2 : ℤ) ^ Format.binary64.exponentBits) = 2048 := rfl
  rw [UnpackedFloat.ofScientific, dif_neg hn, hbits, if_neg (by decide), if_neg (by omega),
    if_pos (le_refl _), mul_finite, Int.toNat_zero, pow_zero, mul_one]
  rfl

/-- A longer number is rounded at once. -/
theorem isSmall_ofNat_of_le {n : ℕ} (hmin : 2 ^ 53 ≤ n) (hmax : n < 2 ^ 64) :
    IsSmall 394 (Float.ofNat n).toModel.unpack := by
  have hfloat : Float.ofNat n = .ofModel (Float.Model.ofScientific n 0) := by
    change Float.ofScientific n false 0 = _
    rw [Float.ofScientific, dif_neg fun hfits => absurd hfits.1 (not_lt.2 hmin)]
    rfl
  have hmantissa : n <<< 53 < 2 ^ 117 := by
    rw [Nat.shiftLeft_eq]
    omega
  have hround := exponentAtMost_roundWithAccuracy .positive .exact hmantissa (le_refl (-53))
    (by decide)
  have hzero : n ≠ 0 := by omega
  rw [← ofScientific_zero hzero] at hround
  rw [hfloat]
  exact isSmall_unpack_pack (hround.mono (by decide)) (by decide) (by decide)

theorem isSmall_ofNat {n : ℕ} (h : n < 2 ^ 64) : IsSmall 394 (Float.ofNat n).toModel.unpack := by
  by_cases hsmall : n < 2 ^ 53
  · exact isSmall_ofNat_of_lt hsmall
  · exact isSmall_ofNat_of_le (not_lt.1 hsmall) h

/-- **A whole number of 64 bits is finite** as a floating-point number. -/
theorem isFinite_ofInt {n : ℤ} (hmin : -2 ^ 63 ≤ n) (hmax : n < 2 ^ 64) :
    (Float.ofInt n).isFinite = true := by
  cases n with
  | ofNat n => exact (isSmall_ofNat (Int.ofNat_lt.1 hmax)).isFinite
  | negSucc n =>
    have hsmall : IsSmall 394 (Float.ofNat (n + 1)).toModel.unpack := isSmall_ofNat (by omega)
    exact (isSmall_unpack_pack hsmall.exponentAtMost.neg (by decide) (by decide)).isFinite

end Footfall
