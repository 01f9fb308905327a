/-
Sums and differences of doubles.

A sum is rounded to a double next to it, and so is a difference (`nextTo_add`, `nextTo_sub`).
A sum that is at least a finite double is therefore not rounded below it, and a difference
neither (`le_add`, `le_sub`); an overflow to infinity does not change that.
-/
import Atelier.Proofs.Decimal.Order

namespace Atelier

open Float.Model
open Float.Model.UnpackedFloat (Accuracy Sign decreaseExponent normalize roundWithAccuracy)

/-! ## Rounding of exact results -/

lemma roundWithAccuracy_negative (n : ℕ) (f : ℤ) (a : Accuracy) :
    roundWithAccuracy .binary64 .negative n f a =
      (roundWithAccuracy .binary64 .positive n f a).neg := by
  unfold roundWithAccuracy
  dsimp only
  split <;> rfl

lemma round_negative (n : ℕ) (f : ℤ) :
    UnpackedFloat.round .binary64 .negative n f =
      (UnpackedFloat.round .binary64 .positive n f).neg :=
  roundWithAccuracy_negative _ _ _

lemma nextTo_round {n : ℕ} (hn : 0 < n) (f : ℤ) :
    NextTo (.round .binary64 .positive n f) (n * 2 ^ f) := by
  obtain ⟨n', f', hvalue, hf, hround⟩ := exists_round_eq hn f .positive
  rw [hround]
  exact nextTo_roundWithAccuracy (.of_exact n') hvalue (by positivity) hf

lemma nextTo_normalize (k q : ℤ) : NextTo (normalize .binary64 k q .positive) (k * 2 ^ q) := by
  rw [UnpackedFloat.normalize]
  rcases lt_trichotomy k 0 with hneg | rfl | hpos
  · have hround := (nextTo_round (show 0 < (-k).toNat by omega) q).neg
    have hcast : (((-k).toNat : ℕ) : ℚ) = -k := by
      exact_mod_cast Int.toNat_of_nonneg (show 0 ≤ -k by omega)
    rw [hcast, neg_mul, neg_neg, ← round_negative] at hround
    rwa [Int.compare_eq_lt.2 hneg]
  · simpa [value] using NextTo.of_rounded (.zero .positive)
  · have hround := nextTo_round (show 0 < k.toNat by omega) q
    have hcast : ((k.toNat : ℕ) : ℚ) = k := by
      exact_mod_cast Int.toNat_of_nonneg hpos.le
    rw [hcast] at hround
    rwa [Int.compare_eq_gt.2 hpos]

/-- A number keeps its value when it is written over a smaller exponent. -/
lemma apply_decreaseExponent (s : Sign) (m : ℕ) {e q : ℤ} (hq : q ≤ e) :
    (s.apply (decreaseExponent m e q).1 : ℚ) * 2 ^ q = s.apply m * 2 ^ e := by
  have hshift := shiftLeft_mul_two_zpow m (e - q).toNat e
  rw [show e - (e - q).toNat = q by omega] at hshift
  rw [decreaseExponent]
  cases s with
  | negative =>
    simp only [Sign.apply, Int.cast_neg, Int.cast_natCast, neg_mul]
    rw [hshift]
  | positive => exact_mod_cast hshift

lemma nextTo_add {u v : UnpackedFloat} (hu : Rounded u) (hv : Rounded v) :
    NextTo (.add .binary64 u v) (value u + value v) := by
  cases hu with
  | zero s =>
    cases hv with
    | zero s' =>
      have hzero (z : Sign) : NextTo (.zero z) (value (.zero s) + value (.zero s')) := by
        simpa [value] using NextTo.of_rounded (.zero z)
      rw [UnpackedFloat.add]
      split
      · exact hzero s
      · exact hzero .positive
    | finite s' h' =>
      rw [show value (.zero s) = 0 from rfl, zero_add]
      exact .of_rounded (.finite s' h')
  | finite s h =>
    cases hv with
    | zero s' =>
      rw [show value (.zero s') = 0 from rfl, add_zero]
      exact .of_rounded (.finite s h)
    | finite s' h' =>
      rename_i m e m' e'
      have hsum := nextTo_normalize (s.apply (decreaseExponent m e (min e e')).1 +
        s'.apply (decreaseExponent m' e' (min e e')).1) (min e e')
      rw [Int.cast_add, add_mul, apply_decreaseExponent s m (min_le_left e e'),
        apply_decreaseExponent s' m' (min_le_right e e')] at hsum
      exact hsum

lemma apply_neg (s : Sign) (k : ℤ) : (-s).apply k = -s.apply k := by
  cases s with
  | negative => exact (neg_neg k).symm
  | positive => rfl

/-- To subtract is to add the negative. -/
lemma sub_eq_add_neg_unpacked (u v : UnpackedFloat) :
    UnpackedFloat.sub .binary64 u v = .add .binary64 u v.neg := by
  cases u with
  | finite s m e hm =>
    cases v with
    | finite s' m' e' hm' =>
      simp only [UnpackedFloat.sub, UnpackedFloat.add, UnpackedFloat.neg, apply_neg,
        sub_eq_add_neg]
    | _ => rfl
  | _ => cases v <;> rfl

lemma nextTo_sub {u v : UnpackedFloat} (hu : Rounded u) (hv : Rounded v) :
    NextTo (.sub .binary64 u v) (value u - value v) := by
  have hsum := nextTo_add hu hv.neg
  rwa [value_neg, ← sub_eq_add_neg, ← sub_eq_add_neg_unpacked] at hsum

/-! ## Packed results -/

lemma unpack_packedInfinity (s : Sign) :
    UnpackedFloat.unpack .binary64 (UnpackedFloat.packedInfinity .binary64 s) = .infinity s := by
  cases s <;> rfl

/-- What is rounded is packed as it is, or overflows. -/
lemma unpack_pack_of_rounded {u : UnpackedFloat} (hu : Rounded u) :
    (Float.Model.pack u).unpack = u ∨
      ∃ s m e, ∃ h : Fits m e, 971 < e ∧ u = .finite s m e h.pos ∧
        (Float.Model.pack u).unpack = .infinity s := by
  cases hu with
  | zero s => exact .inl UnpackedFloat.unpack_packedZero
  | finite s h =>
    rename_i m e
    rcases le_or_gt e 971 with he | he
    · exact .inl (unpack_pack ⟨h, he⟩ s h.pos)
    · refine .inr ⟨s, m, e, h, he, rfl, ?_⟩
      show UnpackedFloat.unpack .binary64 (UnpackedFloat.pack .binary64 _) = _
      have hlarge : 2 ^ 11 ≤ (e + 1075).toNat + 1 := by omega
      simp only [UnpackedFloat.pack, add_bias]
      rw [if_pos hlarge, unpack_packedInfinity]

/-- What overflows is larger than every finite double. -/
lemma abs_exact_lt {c : Float} (hc : c.isFinite = true) {m : ℕ} {e : ℤ} (h : Fits m e)
    (he : 971 < e) : |exact c| < m * 2 ^ e := by
  have hrounded := rounded_unpack hc
  rw [exact]
  cases hunpack : c.toModel.unpack with
  | finite s m' e' hm' =>
    have hcanonical := canonical_of_unpack hunpack
    have hhigh := hcanonical.high
    have hlt := hcanonical.toFits.lt_of_exponent_lt h (by omega)
    have hpos := hcanonical.number_pos
    cases s with
    | negative => rwa [value_negative, abs_neg, abs_of_pos hpos]
    | positive => rwa [value_positive, abs_of_pos hpos]
  | _ => simpa [value] using h.number_pos

lemma compare_infinity {u : UnpackedFloat} (hu : Rounded u) (s : Sign) :
    u.compare (.infinity s) = some (compare 0 (s.apply 1)) := by
  cases hu with
  | zero s' => cases s <;> rfl
  | finite s' h => cases s <;> cases s' <;> rfl

/-- A finite double compares with a rounded number as the two are, even if that overflows. -/
lemma compare_pack {c : Float} {u : UnpackedFloat} (hc : c.isFinite = true) (hu : Rounded u) :
    c.toModel.unpack.compare (Float.Model.pack u).unpack = some (compare (exact c) (value u)) := by
  rcases unpack_pack_of_rounded hu with hpack | ⟨s, m, e, h, he, rfl, hpack⟩
  · rw [hpack]
    exact (rounded_unpack hc).compare_eq hu
  · have hbound := abs_lt.1 (abs_exact_lt hc h he)
    rw [hpack, compare_infinity (rounded_unpack hc)]
    cases s with
    | negative =>
      rw [value_negative, compare_gt_iff_gt.2 hbound.1]
      rfl
    | positive =>
      rw [value_positive, compare_lt_iff_lt.2 hbound.2]
      rfl

/-! ## Comparing doubles with sums -/

section

variable {c x y : Float}

lemma le_add (hc : c.isFinite = true) (hx : x.isFinite = true) (hy : y.isFinite = true)
    (h : exact c ≤ exact x + exact y) : c ≤ x + y := by
  have hsum := nextTo_add (rounded_unpack hx) (rounded_unpack hy)
  refine (le_iff_isLE (compare_pack hc hsum.rounded)).2 (isLE_compare.2 ?_)
  exact hsum.le (rounded_unpack hc) h

lemma le_sub (hc : c.isFinite = true) (hx : x.isFinite = true) (hy : y.isFinite = true)
    (h : exact c ≤ exact x - exact y) : c ≤ x - y := by
  have hdifference := nextTo_sub (rounded_unpack hx) (rounded_unpack hy)
  refine (le_iff_isLE (compare_pack hc hdifference.rounded)).2 (isLE_compare.2 ?_)
  exact hdifference.le (rounded_unpack hc) h

/-- Adding what is not negative does not make less. -/
theorem le_add_of_nonneg (hx : x.isFinite = true) (hy : y.isFinite = true) (h : 0 ≤ y) :
    x ≤ x + y := by
  have hnonneg := (le_iff isFinite_zero hy).1 h
  rw [exact_zero] at hnonneg
  exact le_add hx hx hy (by linarith)

/-- The difference to what is not less is not negative, an infinite one included. -/
theorem sub_nonneg_of_le (hx : x.isFinite = true) (h : x ≤ y) : 0 ≤ y - x := by
  by_cases hy : y.isFinite = true
  · have hle := (le_iff hx hy).1 h
    exact le_sub isFinite_zero hy hx (by rw [exact_zero]; linarith)
  · -- Above a finite double there is only one infinity, and it absorbs what is subtracted.
    have hrounded := rounded_unpack hx
    rw [le_iff_any] at h ⊢
    have hdifference : (y - x).toModel.unpack = .infinity .positive := by
      show (Float.Model.pack (.sub .binary64 y.toModel.unpack x.toModel.unpack)).unpack = _
      change ¬ y.toModel.unpack.isFinite = true at hy
      generalize x.toModel.unpack = u at *
      cases hunpack : y.toModel.unpack with
      | zero s => exact absurd (by rw [hunpack]; rfl) hy
      | finite s m e hm => exact absurd (by rw [hunpack]; rfl) hy
      | notANumber =>
        rw [hunpack] at h
        cases hrounded <;> cases h
      | infinity s =>
        rw [hunpack, compare_infinity hrounded] at h
        cases s with
        | negative => cases h
        | positive =>
          have habsorb : UnpackedFloat.sub .binary64 (.infinity .positive) u =
              .infinity .positive := by cases hrounded <;> rfl
          rw [habsorb]
          exact unpack_packedInfinity .positive
    rw [hdifference]
    rfl

end

/-! ## Zero -/

/-- A rounded number taken from itself leaves `0`, also if it is `-0`. -/
lemma Rounded.sub_self {u : UnpackedFloat} (hu : Rounded u) :
    UnpackedFloat.sub .binary64 u u = .zero .positive := by
  cases hu with
  | zero s => cases s <;> rfl
  | finite s h =>
    simp only [UnpackedFloat.sub, Int.sub_self]
    rfl

lemma sub_self_eq_zero {x : Float} (hx : x.isFinite = true) : x - x = 0 := by
  show Float.ofModel (.pack (.sub .binary64 x.toModel.unpack x.toModel.unpack)) = 0
  rw [(rounded_unpack hx).sub_self]
  rfl

/-- Adding `0` changes no number, but for the sign of `-0`. -/
lemma add_zero_beq {x : Float} (hx : x.isNaN = false) : (x + 0 == x) = true := by
  change x.toModel.unpack.isNaN = false at hx
  rw [beq_iff_eq_eq]
  show (Float.Model.pack (.add .binary64 x.toModel.unpack (.zero .positive))).unpack.compare
    x.toModel.unpack = some .eq
  cases hunpack : x.toModel.unpack with
  | notANumber =>
    rw [hunpack] at hx
    cases hx
  | infinity s | zero s => cases s <;> rfl
  | finite s m e hm =>
    have hcanonical := canonical_of_unpack hunpack
    have hrounded : Rounded (.finite s m e hm) := .finite s hcanonical.toFits
    show (Float.Model.pack (.finite s m e hm)).unpack.compare (.finite s m e hm) = some .eq
    rw [unpack_pack hcanonical, hrounded.compare_eq hrounded, compare_eq_iff_eq.2 rfl]

/-! ## Absolute values -/

/-- What is not negative is its own absolute value, and `-0` compares as equal with it. -/
lemma abs_beq {x : Float} (h : 0 ≤ x) : (x.abs == x) = true := by
  have hzero : (0 : Float).toModel.unpack = .zero .positive := rfl
  rw [le_iff_any, hzero] at h
  rw [beq_iff_eq_eq]
  show (Float.Model.pack x.toModel.unpack.abs).unpack.compare x.toModel.unpack = some .eq
  cases hunpack : x.toModel.unpack with
  | notANumber =>
    rw [hunpack] at h
    cases h
  | infinity s =>
    rw [hunpack] at h
    cases s with
    | negative => cases h
    | positive => rfl
  | zero s => cases s <;> rfl
  | finite s m e hm =>
    rw [hunpack] at h
    cases s with
    | negative => cases h
    | positive =>
      have hcanonical := canonical_of_unpack hunpack
      have hrounded : Rounded (.finite .positive m e hm) := .finite .positive hcanonical.toFits
      rw [UnpackedFloat.abs, unpack_pack hcanonical, hrounded.compare_eq hrounded,
        compare_eq_iff_eq.2 rfl]

end Atelier
