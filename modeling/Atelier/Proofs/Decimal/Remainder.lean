/-
Remainders of doubles.

What is smaller than the divisor is its own remainder, whatever its sign (`remainder_of_lt`): the
remainder is taken on whole numbers over one exponent, and a double is rounded to itself.
-/
import Atelier.Proofs.Decimal.Order
import Atelier.Proofs.Decimal.Scientific

namespace Atelier

open Float.Model
open Float.Model.UnpackedFloat (Sign)

/-! ## Magnitudes -/

/-- The magnitude of a double is that of the number it stands for. -/
lemma significand_mul_eq_abs (x : Float) :
    ((Binary.ofFloat x).significand : ℚ) * 2 ^ (Binary.ofFloat x).exponent = |exact x| := by
  rw [Binary.ofFloat, exact]
  cases hunpack : x.toModel.unpack with
  | finite s m e hm =>
    have hpos := (canonical_of_unpack hunpack).number_pos
    cases s with
    | negative => rw [value_negative, abs_neg, abs_of_pos hpos]
    | positive => rw [value_positive, abs_of_pos hpos]
  | _ => simp [value]

lemma scaled_mul_two_zpow (b : Binary) {q : ℤ} (hq : q ≤ b.exponent) :
    (b.scaled q : ℚ) * 2 ^ q = b.significand * 2 ^ b.exponent := by
  have hshift := shiftLeft_mul_two_zpow b.significand (b.exponent - q).toNat b.exponent
  rwa [show b.exponent - (b.exponent - q).toNat = q by omega] at hshift

/-- Over one exponent the smaller magnitude has the smaller significand. -/
lemma scaled_lt_scaled {x y : Float} (h : |exact x| < |exact y|) :
    (Binary.ofFloat x).scaled (min (Binary.ofFloat x).exponent (Binary.ofFloat y).exponent) <
      (Binary.ofFloat y).scaled (min (Binary.ofFloat x).exponent (Binary.ofFloat y).exponent) := by
  rw [← significand_mul_eq_abs x, ← significand_mul_eq_abs y,
    ← scaled_mul_two_zpow (Binary.ofFloat x) (min_le_left _ (Binary.ofFloat y).exponent),
    ← scaled_mul_two_zpow (Binary.ofFloat y) (min_le_right (Binary.ofFloat x).exponent _)] at h
  exact_mod_cast lt_of_mul_lt_mul_right h (two_zpow_pos _).le

/-- The magnitude of a double, however it is written, is rounded to the double without its
sign. -/
lemma toFloat_of_exact {x : Float} (hx : x.isFinite = true) {n : ℕ} {q : ℤ}
    (h : (n : ℚ) * 2 ^ q = |exact x|) :
    (if signBit x = true then -Binary.toFloat ⟨n, q⟩ else Binary.toFloat ⟨n, q⟩) = x := by
  have hunit := two_zpow_pos q
  rw [← significand_mul_eq_abs] at h
  rcases exists_of_isFinite hx with ⟨s, rfl⟩ | ⟨s, m, e, hcanonical, rfl⟩
  · have hzero : Binary.ofFloat (.ofModel (.pack (.zero s))) = ⟨0, 0⟩ := by cases s <;> rfl
    rw [hzero, Nat.cast_zero, zero_mul, mul_eq_zero_iff_right hunit.ne', Nat.cast_eq_zero] at h
    rw [Binary.toFloat, if_pos h]
    cases s <;> rfl
  · have hpos := hcanonical.number_pos
    rw [ofFloat_of_finite hcanonical] at h
    have hn : 0 < n := by
      have hpos' : (0 : ℚ) < n := pos_of_mul_pos_left (h ▸ hpos) hunit.le
      exact_mod_cast hpos'
    rw [signBit_of_finite hcanonical, Binary.toFloat, if_neg hn.ne',
      round_of_fits hcanonical.toFits hn h]
    cases s with
    | negative =>
      rw [neg_of_finite hcanonical]
      rfl
    | positive => rfl

/-! ## The remainder -/

/-- What is smaller than the divisor is its own remainder. -/
theorem remainder_of_lt {x y : Float} (hx : x.isFinite = true) (hy : y.isFinite = true)
    (h : |exact x| < |exact y|) : remainder x y = x := by
  have hzero : (y == 0) = false := by
    rw [Bool.eq_false_iff, ne_eq, beq_iff hy isFinite_zero, exact_zero]
    exact abs_pos.1 ((abs_nonneg (exact x)).trans_lt h)
  rw [remainder, isNaN_of_isFinite hx, isNaN_of_isFinite hy, isInf_of_isFinite hx,
    isInf_of_isFinite hy, hzero]
  simp only [Bool.or_self, Bool.false_eq_true, if_false, Nat.mod_eq_of_lt (scaled_lt_scaled h)]
  refine toFloat_of_exact hx ?_
  rw [scaled_mul_two_zpow _ (min_le_left _ _), significand_mul_eq_abs]

end Atelier
