/-
Numerals that denote doubles.

A numeral of a number that is nearest to a double is read as that double, and the digits of a
double are of that kind.  A sign in front is that of the double.
-/
import Atelier.Proofs.Decimal.Scientific
import Atelier.Proofs.Decimal.Text

namespace Atelier

open Float.Model (UnpackedFloat)

namespace Numeral

/-- The numeral with a minus sign or without a sign. -/
def withSign (x : Numeral) (negative : Bool) : Numeral :=
  { x with sign := if negative then some '-' else none }

/-- A minus sign, or none, before a numeral without a sign. -/
lemma scan_withSign {text : List Char} {x : Numeral} (h : scan text = some x)
    (hsign : x.sign = none) (negative : Bool) :
    scan (if negative then '-' :: text else text) = some (x.withSign negative) := by
  cases negative with
  | true => exact scan_minus h hsign
  | false =>
    obtain ⟨sign, whole, fraction, power⟩ := x
    obtain rfl : sign = none := hsign
    exact h

lemma toFloat_withSign {x : Numeral} (hsign : x.sign = none) (negative : Bool) :
    (x.withSign negative).toFloat = if negative then -x.toFloat else x.toFloat := by
  cases negative <;> simp [toFloat, Numeral.negative, coefficient, exponent, withSign, hsign]

/-- A numeral of a number nearest to a double, behind the sign of the double, is read as the
double. -/
lemma toFloat_of_roundsTo {m : ℕ} {e : ℤ} (h : Canonical m e) {x : Numeral}
    (hsign : x.sign = none) (hround : RoundsTo m e x.value) (s : UnpackedFloat.Sign) :
    (x.withSign (signBit (.ofModel (.pack (.finite s m e h.pos))))).toFloat =
      .ofModel (.pack (.finite s m e h.pos)) := by
  have hpositive : x.toFloat = .ofModel (.pack (.finite .positive m e h.pos)) := by
    rw [toFloat, ← ofScientific_eq h hround]
    simp [Numeral.negative, hsign]
  rw [toFloat_withSign hsign, hpositive, neg_of_finite h, signBit_of_finite h]
  cases s <;> rfl

end Numeral

/-- Zero is nearest to no double but zero. -/
lemma Decimal.coefficient_shortest_pos {m : ℕ} {e : ℤ} (h : Canonical m e) (tie : Tie) :
    0 < (shortest tie ⟨m, e⟩).coefficient := by
  refine Nat.pos_of_ne_zero fun hzero => ?_
  have hsmall := ((roundsTo_shortest h tie).bounds h).1
  rw [value, hzero, Nat.cast_zero, zero_mul] at hsmall
  exact absurd hsmall (not_le.2 (two_zpow_pos _))

end Atelier
