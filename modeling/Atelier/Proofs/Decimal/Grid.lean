/-
Sums that are not rounded.

A sum of doubles is exact if it is the value of a double (`exact_add`), and so is a difference.
That holds for numbers on a grid: whole multiples of one power of two, as long as there are fewer
than `2 ^ 53` of it (`exists_exact_eq`).
-/
import Atelier.Proofs.Decimal.Finite

namespace Atelier

open Float.Model
open Float.Model.UnpackedFloat (Sign)

/-! ## Whole multiples of a power of two -/

/-- A significand of fewer than 53 bits is doubled until it has 53 or the exponent is the least
one. -/
lemma exists_canonical {n : ℕ} (hn : 0 < n) (hlt : n < 2 ^ 53) {k : ℤ} (hlow : -1074 ≤ k)
    (hhigh : k ≤ 971) : ∃ m e, Canonical m e ∧ (m : ℚ) * 2 ^ e = n * 2 ^ k := by
  -- The induction is on the room above the least exponent.
  obtain ⟨room, hroom⟩ : ∃ room : ℕ, k = room - 1074 := ⟨(k + 1074).toNat, by omega⟩
  induction room generalizing n k with
  | zero => exact ⟨n, k, ⟨⟨hn, hlt, hlow, .inr (by omega)⟩, hhigh⟩, rfl⟩
  | succ room ih =>
    rcases le_or_gt (2 ^ 52) n with hbits | hbits
    · exact ⟨n, k, ⟨⟨hn, hlt, hlow, .inl hbits⟩, hhigh⟩, rfl⟩
    · obtain ⟨m, e, hcanonical, hvalue⟩ :=
        ih (n := 2 * n) (k := k - 1) (by omega) (by omega) (by omega) (by omega) (by omega)
      refine ⟨m, e, hcanonical, hvalue.trans ?_⟩
      have hpow : (2 : ℚ) ^ k = 2 * 2 ^ (k - 1) := by
        rw [← zpow_one_add₀ two_ne_zero]
        congr 1
        omega
      rw [hpow]
      push_cast
      ring

/-- Fewer than `2 ^ 53` times a power of two is the value of a double. -/
lemma exists_exact_eq {c k : ℤ} (hc : |c| < 2 ^ 53) (hlow : -1074 ≤ k) (hhigh : k ≤ 971) :
    ∃ z : Float, z.isFinite = true ∧ exact z = c * 2 ^ k := by
  rcases eq_or_ne c 0 with rfl | hne
  · exact ⟨0, isFinite_zero, by rw [exact_zero, Int.cast_zero, zero_mul]⟩
  · have hpos : 0 < c.natAbs := Int.natAbs_pos.2 hne
    rw [Int.abs_eq_natAbs] at hc
    obtain ⟨m, e, hcanonical, hvalue⟩ := exists_canonical hpos (by exact_mod_cast hc) hlow hhigh
    have habs : ((c.natAbs : ℕ) : ℚ) = |(c : ℚ)| := by rw [Nat.cast_natAbs, Int.cast_abs]
    rw [habs] at hvalue
    rcases abs_choice (c : ℚ) with hsign | hsign
    · refine ⟨_, isFinite_of_finite hcanonical .positive, ?_⟩
      rw [exact, unpack_pack hcanonical, value_positive, hvalue, hsign]
    · refine ⟨_, isFinite_of_finite hcanonical .negative, ?_⟩
      rw [exact, unpack_pack hcanonical, value_negative, hvalue, hsign]
      ring

/-! ## Exact sums -/

/-- Packing keeps the value of what does not overflow. -/
lemma exact_pack_of_isFinite {u : UnpackedFloat} (hu : Rounded u)
    (hfinite : (Float.ofModel (.pack u)).isFinite = true) :
    exact (.ofModel (.pack u)) = value u := by
  rcases unpack_pack_of_rounded hu with hpack | ⟨s, _, _, _, _, rfl, hpack⟩
  · rw [exact, hpack]
  · change (Float.Model.pack _).unpack.isFinite = true at hfinite
    rw [hpack] at hfinite
    cases hfinite

/-- What is next to a number that is not negative is not negative. -/
lemma NextTo.exact_pack_nonneg {u : UnpackedFloat} {r : ℚ} (h : NextTo u r) (hr : 0 ≤ r)
    (hfinite : (Float.ofModel (.pack u)).isFinite = true) : 0 ≤ exact (.ofModel (.pack u)) := by
  rw [exact_pack_of_isFinite h.rounded hfinite]
  exact h.le (.zero .positive) hr

/-- What is next to the value of a double has that value. -/
lemma NextTo.exact_pack {u : UnpackedFloat} {r : ℚ} (h : NextTo u r) {z : Float}
    (hz : z.isFinite = true) (hr : exact z = r) :
    (Float.ofModel (.pack u)).isFinite = true ∧ exact (.ofModel (.pack u)) = r := by
  have hfinite : (Float.ofModel (.pack u)).isFinite = true := h.isFinite_pack hz (by rw [hr])
  have hrounded := rounded_unpack hz
  have hvalue : value u = r :=
    le_antisymm ((h.ge hrounded hr.ge).trans hr.le) (hr.ge.trans (h.le hrounded hr.le))
  exact ⟨hfinite, (exact_pack_of_isFinite h.rounded hfinite).trans hvalue⟩

section

variable {x y z : Float}

lemma exact_add (hx : x.isFinite = true) (hy : y.isFinite = true) (hz : z.isFinite = true)
    (h : exact z = exact x + exact y) :
    (x + y).isFinite = true ∧ exact (x + y) = exact x + exact y :=
  (nextTo_add (rounded_unpack hx) (rounded_unpack hy)).exact_pack hz h

lemma exact_sub (hx : x.isFinite = true) (hy : y.isFinite = true) (hz : z.isFinite = true)
    (h : exact z = exact x - exact y) :
    (x - y).isFinite = true ∧ exact (x - y) = exact x - exact y :=
  (nextTo_sub (rounded_unpack hx) (rounded_unpack hy)).exact_pack hz h

end

/-! ## Grids -/

/-- A whole multiple of `2 ^ k`, at most `2 ^ 51` times as large. -/
structure OnGrid (k : ℤ) (x : Float) : Prop where
  finite : x.isFinite = true
  multiple : ∃ c : ℤ, |c| ≤ 2 ^ 51 ∧ exact x = c * 2 ^ k

end Atelier
