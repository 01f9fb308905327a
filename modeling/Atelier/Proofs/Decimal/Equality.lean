/-
Equality of doubles.

The comparison `==` of doubles tells neither the sign of zero nor one NaN from another number,
so it is not equality, and it is not reflexive.  `SameNumber` mends the second: two doubles are
the same number if they compare as equal or are both NaN.  It is an equivalence.

What is known of `==` of doubles comes with no smaller part of Mathlib than all of it.
-/
import Mathlib

namespace Atelier

/-- Two doubles are the same number if they compare as equal, or if both are NaN. -/
def SameNumber (x y : Float) : Prop :=
  (x == y) = true ∨ (x.isNaN = true ∧ y.isNaN = true)

namespace SameNumber

variable {x y z : Float}

@[refl] lemma refl (x : Float) : SameNumber x x := by
  by_cases hx : x = Float.nan
  · right
    constructor <;> simp [hx]
  · left
    exact Float.beq_self_iff.2 hx

lemma of_beq (h : (x == y) = true) : SameNumber x y :=
  .inl h

lemma symm (h : SameNumber x y) : SameNumber y x := by
  rcases h with h | ⟨hx, hy⟩
  · exact .inl (BEq.symm h)
  · exact .inr ⟨hy, hx⟩

/-- NaN compares as equal with nothing. -/
lemma not_isNaN_of_beq (h : (x == y) = true) : ¬ x.isNaN = true ∧ ¬ y.isNaN = true := by
  obtain ⟨hx, hy, -⟩ := Float.beq_iff_ne_nan_and_eq.1 h
  constructor
  · simpa using hx
  · simpa using hy

lemma trans (h : SameNumber x y) (h' : SameNumber y z) : SameNumber x z := by
  rcases h with h | ⟨hx, hy⟩
  · rcases h' with h' | ⟨hy, -⟩
    · exact .inl (BEq.trans h h')
    · exact absurd hy (not_isNaN_of_beq h).2
  · rcases h' with h' | ⟨-, hz⟩
    · exact absurd hy (not_isNaN_of_beq h').1
    · exact .inr ⟨hx, hz⟩

end SameNumber

end Atelier
