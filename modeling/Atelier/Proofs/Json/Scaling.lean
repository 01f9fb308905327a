/-
Decimal numbers scaled by powers of ten.

`Json.Number.scaled` multiplies or divides the double of the digits by that of a power of ten, and
each of the three is rounded.  A number with the digits of a double is nevertheless not taken
beyond the largest one (`isFinite_scaled_ofNat`): for each of the finitely many powers the largest
coefficient that can occur is rounded up, the power too, and their product still does not exceed
the largest double.  Dividing is harmless (`isFinite_scaled_negSucc`).
-/
import Atelier.Json.Number
import Atelier.Proofs.Decimal.Grid
import Atelier.Proofs.Decimal.Numerals

namespace Atelier

namespace Json.Number

/-! ## Taking digits -/

/-- Digits that fit into 64 bits are all taken. -/
lemma takeDigits_eq {n : ℕ} {digits : List Char}
    (h : 10 ^ digits.length * n + digitsValue digits < UInt64.size) :
    takeDigits n digits = (10 ^ digits.length * n + digitsValue digits, []) := by
  induction digits generalizing n with
  | nil => simp [takeDigits, digitsValue]
  | cons c digits ih =>
    have hsplit : 10 ^ (c :: digits).length * n + digitsValue (c :: digits) =
        10 ^ digits.length * (10 * n + (c.toNat - '0'.toNat)) + digitsValue digits := by
      have hfirst : digitsValue [c] = c.toNat - '0'.toNat := by simp [digitsValue]
      have hdigits := digitsValue_append [c] digits
      rw [List.singleton_append, hfirst] at hdigits
      rw [hdigits, List.length_cons]
      ring
    rw [hsplit] at h ⊢
    have hlonger : 10 * n + (c.toNat - '0'.toNat) < UInt64.size :=
      ((Nat.le_mul_of_pos_left _ (by positivity)).trans (Nat.le_add_right _ _)).trans_lt h
    rw [takeDigits, if_pos hlonger]
    exact ih h

/-- The double for a numeral whose digits fit into 64 bits. -/
lemma double_eq {numeral : Numeral} (h : numeral.coefficient < UInt64.size) :
    double numeral =
      if numeral.negative then -scaled numeral.coefficient numeral.exponent
      else scaled numeral.coefficient numeral.exponent := by
  rw [Numeral.coefficient, digitsValue_append] at *
  have hwhole : 10 ^ numeral.whole.length * 0 + digitsValue numeral.whole < UInt64.size := by
    rw [Nat.mul_zero, Nat.zero_add]
    exact ((Nat.le_mul_of_pos_left _ (by positivity)).trans (Nat.le_add_right _ _)).trans_lt h
  rw [double, takeDigits_eq hwhole]
  simp only [Nat.mul_zero, Nat.zero_add]
  rw [takeDigits_eq h]
  simp

/-! ## Rounding up -/

/-- A positive number with what stands behind its first 53 bits rounded up. -/
def roundUp (n : ℕ) : ℕ :=
  ((n - 1) / 2 ^ (n.log2 - 52) + 1) * 2 ^ (n.log2 - 52)

/-- Rounding up does not carry, and does not overflow. -/
def FitsUp (n : ℕ) : Prop :=
  (n - 1) / 2 ^ (n.log2 - 52) + 1 < 2 ^ 53 ∧ n.log2 ≤ 1023

instance (n : ℕ) : Decidable (FitsUp n) :=
  inferInstanceAs (Decidable (_ ∧ _))

lemma le_roundUp (n : ℕ) : n ≤ roundUp n := by
  have hdiv := Nat.div_add_mod (n - 1) (2 ^ (n.log2 - 52))
  have hmod := Nat.mod_lt (n - 1) (Nat.two_pow_pos (n.log2 - 52))
  rw [Nat.mul_comm] at hdiv
  rw [roundUp, Nat.add_mul, Nat.one_mul]
  omega

/-- A number rounded up is a double. -/
lemma FitsUp.exists_exact_eq {n : ℕ} (h : FitsUp n) :
    ∃ z : Float, z.isFinite = true ∧ exact z = roundUp n := by
  obtain ⟨hfits, hlog⟩ := h
  have hexponent : ((n.log2 - 52 : ℕ) : ℤ) ≤ 971 := by omega
  rw [roundUp]
  generalize (n - 1) / 2 ^ (n.log2 - 52) + 1 = m at *
  generalize n.log2 - 52 = k at *
  have hm : |(m : ℤ)| < 2 ^ 53 := by
    rw [Nat.abs_cast]
    exact_mod_cast hfits
  obtain ⟨z, hz, hvalue⟩ := Atelier.exists_exact_eq hm (by omega) hexponent
  refine ⟨z, hz, ?_⟩
  rw [hvalue, zpow_natCast]
  push_cast
  rfl

/-- What is next to a number is finite, and not larger than the number rounded up. -/
lemma FitsUp.exact_pack_le {n : ℕ} (h : FitsUp n) {u : Float.Model.UnpackedFloat} {r : ℚ}
    (hnext : NextTo u r) (hr : |r| ≤ n) :
    (Float.ofModel (.pack u)).isFinite = true ∧ |exact (.ofModel (.pack u))| ≤ roundUp n := by
  obtain ⟨z, hz, hvalue⟩ := h.exists_exact_eq
  have habs : |exact z| = roundUp n := by rw [hvalue, Nat.abs_cast]
  have hle : |r| ≤ |exact z| := by
    rw [habs]
    exact hr.trans (Nat.cast_le.2 (le_roundUp n))
  exact ⟨hnext.isFinite_pack hz hle, habs ▸ hnext.abs_exact_pack_le hz hle⟩

/-! ## Powers of ten -/

/-- The largest finite double. -/
def largest : ℕ := (2 ^ 53 - 1) * 2 ^ 971

/-- The numbers up to this are nearest to a double that is less than the largest. -/
def limit : ℕ := (2 ^ 54 - 3) * 2 ^ 970

/-- The largest coefficient of at most seventeen digits that a power of ten does not take beyond
the limit. -/
def maxCoefficient (p : ℕ) : ℕ := min (10 ^ 17) (limit / 10 ^ p)

lemma limit_lt : limit < 10 ^ (maxPower + 1) := by decide +kernel

/-- The table of the largest coefficients and the powers of ten. -/
lemma roundUp_mul_roundUp_le {p : ℕ} (hp : p ≤ maxPower) :
    FitsUp (maxCoefficient p) ∧ FitsUp (10 ^ p) ∧
      roundUp (maxCoefficient p) * roundUp (10 ^ p) ≤ largest := by
  have hall : (List.range (maxPower + 1)).all (fun p => decide (FitsUp (maxCoefficient p) ∧
      FitsUp (10 ^ p) ∧ roundUp (maxCoefficient p) * roundUp (10 ^ p) ≤ largest)) = true := by
    decide +kernel
  exact of_decide_eq_true (List.all_eq_true.1 hall p (List.mem_range.2 (by omega)))

/-- The double for a power of ten is next to it. -/
lemma exists_powerOfTen_eq {p : ℕ} (hp : p ≤ maxPower) :
    ∃ u, powerOfTen p = .ofModel (.pack u) ∧ NextTo u (10 ^ p) := by
  rcases le_or_gt p 22 with hsmall | hlarge
  · -- The power is a double itself.
    have hfive : 5 ^ p < 2 ^ 53 :=
      (Nat.pow_le_pow_right (by norm_num) hsmall).trans_lt (by norm_num)
    obtain ⟨m, e, h, hvalue⟩ :=
      exists_canonical (n := 5 ^ p) (k := p) (by positivity) hfive (by omega) (by omega)
    have hten : (m : ℚ) * 2 ^ e = 10 ^ p := by
      rw [hvalue, zpow_natCast, Nat.cast_pow, ← mul_pow]
      norm_num
    have hself := RoundsTo.self m e
    have hnext := NextTo.of_rounded (.finite .positive h.toFits)
    rw [value_positive, hten] at hnext
    rw [hten] at hself
    refine ⟨_, ofScientific_eq h (c := 1) (p := p) ?_, hnext⟩
    rwa [Nat.cast_one, one_mul, zpow_natCast]
  · have hnext := nextTo_ofScientific one_pos (hp.trans (by decide))
    rw [Nat.cast_one, one_mul] at hnext
    refine ⟨_, ?_, hnext⟩
    rw [powerOfTen, Float.ofScientific, dif_neg fun h => absurd h.2 (not_le.2 hlarge)]
    rfl

lemma isFinite_powerOfTen {p : ℕ} (hp : p ≤ maxPower) : (powerOfTen p).isFinite = true := by
  obtain ⟨u, hu, hnext⟩ := exists_powerOfTen_eq hp
  rw [hu]
  exact ((roundUp_mul_roundUp_le hp).2.1.exact_pack_le hnext (by simp)).1

lemma one_le_powerOfTen {p : ℕ} (hp : p ≤ maxPower) : 1 ≤ exact (powerOfTen p) := by
  have hfinite := isFinite_powerOfTen hp
  obtain ⟨u, hu, hnext⟩ := exists_powerOfTen_eq hp
  rw [hu] at hfinite ⊢
  -- One is a double, and not more than the power.
  have hfits : Fits (2 ^ 52) (-52) := ⟨by norm_num, by norm_num, by norm_num, .inl le_rfl⟩
  have hone : value (.finite .positive (2 ^ 52) (-52) hfits.pos) = 1 := by
    rw [value_positive]
    norm_num
  have hle := hnext.le (.finite .positive hfits) (hone.le.trans (one_le_pow₀ (by norm_num)))
  rwa [hone, ← exact_pack_of_isFinite hnext.rounded hfinite] at hle

lemma abs_exact_powerOfTen_le {p : ℕ} (hp : p ≤ maxPower) :
    |exact (powerOfTen p)| ≤ roundUp (10 ^ p) := by
  obtain ⟨u, hu, hnext⟩ := exists_powerOfTen_eq hp
  rw [hu]
  exact ((roundUp_mul_roundUp_le hp).2.1.exact_pack_le hnext (by simp)).2

/-! ## Scaling -/

lemma isFinite_lowered {x : Float} (hx : x.isFinite = true) (k : ℕ) :
    (lowered k x).isFinite = true := by
  induction k generalizing x with
  | zero => exact hx
  | succ k ih =>
    unfold lowered
    split
    · exact hx
    · exact ih (isFinite_div hx (isFinite_powerOfTen le_rfl) (one_le_powerOfTen le_rfl))

/-- Dividing by powers of ten does not overflow. -/
lemma isFinite_scaled_negSucc {n : ℕ} (hn : n < UInt64.size) (k : ℕ) :
    (scaled n (.negSucc k)).isFinite = true := by
  have hpower : k % maxPower + 1 ≤ maxPower := Nat.mod_lt k (by decide)
  rw [scaled]
  exact isFinite_div (isFinite_lowered (isFinite_ofNat hn) _) (isFinite_powerOfTen hpower)
    (one_le_powerOfTen hpower)

lemma abs_exact_ofNat_le {n p : ℕ} (hp : p ≤ maxPower) (hpos : 0 < n)
    (hn : n ≤ maxCoefficient p) :
    |exact (Float.ofNat n)| ≤ roundUp (maxCoefficient p) := by
  obtain ⟨u, hu, hnext⟩ := exists_ofNat_eq hpos
  rw [hu]
  refine ((roundUp_mul_roundUp_le hp).1.exact_pack_le hnext ?_).2
  rw [Nat.abs_cast]
  exact Nat.cast_le.2 hn

/-- The largest finite double. -/
lemma exists_exact_eq_largest : ∃ z : Float, z.isFinite = true ∧ exact z = largest := by
  obtain ⟨z, hz, hvalue⟩ := exists_exact_eq (c := 2 ^ 53 - 1) (k := 971) (by norm_num)
    (by norm_num) le_rfl
  refine ⟨z, hz, ?_⟩
  rw [hvalue, largest, Nat.cast_mul, Nat.cast_pow 2 971]
  rfl

/-- Multiplying by a power of ten does not overflow below the limit. -/
lemma isFinite_scaled_ofNat {n p : ℕ} (hpos : 0 < n) (hn : n ≤ 10 ^ 17)
    (hlimit : n * 10 ^ p ≤ limit) : (scaled n (.ofNat p)).isFinite = true := by
  have hp : p ≤ maxPower := by
    by_contra hp
    have hle : 10 ^ (maxPower + 1) ≤ 10 ^ p := Nat.pow_le_pow_right (by norm_num) (not_le.1 hp)
    exact limit_lt.not_ge (hle.trans ((Nat.le_mul_of_pos_left _ hpos).trans hlimit))
  have hcoefficient := abs_exact_ofNat_le hp hpos
    (le_min hn ((Nat.le_div_iff_mul_le (by positivity)).2 hlimit))
  have hpower := abs_exact_powerOfTen_le hp
  have hproduct := (roundUp_mul_roundUp_le hp).2.2
  obtain ⟨z, hz, hlargest⟩ := exists_exact_eq_largest
  rw [scaled, if_pos hp]
  refine isFinite_mul (isFinite_ofNat (hn.trans_lt (by norm_num))) (isFinite_powerOfTen hp)
    (one_le_powerOfTen hp) hz ?_
  rw [hlargest, Nat.abs_cast, abs_mul]
  calc |exact (Float.ofNat n)| * |exact (powerOfTen p)|
      ≤ roundUp (maxCoefficient p) * roundUp (10 ^ p) :=
        mul_le_mul hcoefficient hpower (abs_nonneg _) (Nat.cast_nonneg _)
    _ ≤ largest := by rw [← Nat.cast_mul]; exact Nat.cast_le.2 hproduct

/-- A number nearest to a double other than the largest lies below the limit. -/
lemma le_limit {m : ℕ} {e : ℤ} (h : Canonical m e) (hne : ¬ (m = 2 ^ 53 - 1 ∧ e = 971)) {r : ℚ}
    (hr : RoundsTo m e r) : r ≤ limit := by
  have hhigh := h.high
  have hlt := h.lt
  have hlimit : (limit : ℚ) = (2 ^ 54 - 3) * 2 ^ (970 : ℤ) := by
    have hfactor : ((2 ^ 54 - 3 : ℕ) : ℚ) = 2 ^ 54 - 3 := by norm_num
    rw [limit, Nat.cast_mul, Nat.cast_pow 2 970, hfactor]
    rfl
  rw [hlimit]
  rcases hhigh.eq_or_lt with rfl | hsmaller
  · have hm : m + 2 ≤ 2 ^ 53 := by omega
    have hm' : (m : ℚ) + 2 ≤ 2 ^ 53 := by exact_mod_cast hm
    have hdouble : (2 : ℚ) ^ (971 : ℤ) = 2 * 2 ^ (970 : ℤ) := by
      rw [← zpow_one_add₀ two_ne_zero]
      rfl
    calc r ≤ (m + 1 / 2) * 2 ^ (971 : ℤ) := hr.high
      _ = (2 * m + 1) * 2 ^ (970 : ℤ) := by rw [hdouble]; ring
      _ ≤ (2 ^ 54 - 3) * 2 ^ (970 : ℤ) :=
          mul_le_mul_of_nonneg_right (by linarith) (two_zpow_pos _).le
  · have hm : (m : ℚ) + 1 ≤ 2 ^ 53 := by exact_mod_cast hlt
    calc r ≤ (m + 1 / 2) * 2 ^ e := hr.high
      _ ≤ (2 ^ 54 - 3) * 2 ^ e := mul_le_mul_of_nonneg_right (by linarith) (two_zpow_pos _).le
      _ ≤ (2 ^ 54 - 3) * 2 ^ (970 : ℤ) := mul_le_mul_of_nonneg_left
          (zpow_le_zpow_right₀ one_le_two (by omega)) (by norm_num)

/-- A number with few digits that is nearest to a double is scaled to a finite one.  The largest
double is left out. -/
lemma isFinite_scaled {m : ℕ} {e : ℤ} (h : Canonical m e) (hne : ¬ (m = 2 ^ 53 - 1 ∧ e = 971))
    {n : ℕ} (hpos : 0 < n) (hn : n ≤ 10 ^ 17) {p : ℤ} (hr : RoundsTo m e (n * 10 ^ p)) :
    (scaled n p).isFinite = true := by
  cases p with
  | ofNat p =>
    have hlimit := le_limit h hne hr
    rw [Int.ofNat_eq_natCast, zpow_natCast] at hlimit
    exact isFinite_scaled_ofNat hpos hn (by exact_mod_cast hlimit)
  | negSucc k => exact isFinite_scaled_negSucc (hn.trans_lt (by decide)) k

/-! ## Signs -/

lemma exact_div_nonneg {x y : Float} (hx : x.isFinite = true) (hnonneg : 0 ≤ exact x)
    (hy : y.isFinite = true) (hone : 1 ≤ exact y) : 0 ≤ exact (x / y) := by
  have hfinite := isFinite_div hx hy hone
  obtain ⟨u, hu, hnext⟩ := exists_div_eq_pack hx hy hone
  rw [hu] at hfinite ⊢
  exact hnext.exact_pack_nonneg (div_nonneg hnonneg (zero_le_one.trans hone)) hfinite

lemma exact_lowered_nonneg {x : Float} (hx : x.isFinite = true) (hnonneg : 0 ≤ exact x) (k : ℕ) :
    0 ≤ exact (lowered k x) := by
  induction k generalizing x with
  | zero => exact hnonneg
  | succ k ih =>
    have hfinite := isFinite_powerOfTen (le_refl maxPower)
    have hone := one_le_powerOfTen (le_refl maxPower)
    unfold lowered
    split
    · exact hnonneg
    · exact ih (isFinite_div hx hfinite hone) (exact_div_nonneg hx hnonneg hfinite hone)

lemma exact_ofNat_nonneg {n : ℕ} (hn : n < UInt64.size) : 0 ≤ exact (Float.ofNat n) := by
  rcases n.eq_zero_or_pos with rfl | hpos
  · exact exact_zero.ge
  · have hfinite := isFinite_ofNat hn
    obtain ⟨u, hu, hnext⟩ := exists_ofNat_eq hpos
    rw [hu] at hfinite ⊢
    exact hnext.exact_pack_nonneg (Nat.cast_nonneg n) hfinite

/-- Digits without a sign are not scaled to a negative number. -/
lemma exact_scaled_nonneg {n : ℕ} (hn : n < UInt64.size) {p : ℤ}
    (hfinite : (scaled n p).isFinite = true) : 0 ≤ exact (scaled n p) := by
  cases p with
  | ofNat p =>
    rw [scaled] at hfinite ⊢
    split at hfinite
    · rename_i hp
      rw [if_pos hp]
      have hone := one_le_powerOfTen hp
      obtain ⟨u, hu, hnext⟩ := exists_mul_eq (isFinite_ofNat hn) (isFinite_powerOfTen hp) hone
      rw [hu] at hfinite ⊢
      exact hnext.exact_pack_nonneg
        (mul_nonneg (exact_ofNat_nonneg hn) (zero_le_one.trans hone)) hfinite
    · rename_i hp
      rw [if_neg hp]
      split at hfinite
      · rename_i hzero
        rw [if_pos hzero]
        exact exact_zero.ge
      · exact absurd hfinite (by decide)
  | negSucc k =>
    have hpower : k % maxPower + 1 ≤ maxPower := Nat.mod_lt k (by decide)
    have hofNat := isFinite_ofNat hn
    exact exact_div_nonneg (isFinite_lowered hofNat _)
      (exact_lowered_nonneg hofNat (exact_ofNat_nonneg hn) _) (isFinite_powerOfTen hpower)
      (one_le_powerOfTen hpower)

end Json.Number

end Atelier
