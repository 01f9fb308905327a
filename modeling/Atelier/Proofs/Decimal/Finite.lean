/-
Which doubles are finite.

A number that is not larger than a finite double is rounded to a finite one
(`NextTo.isFinite_pack`), and so are natural numbers of 64 bits, remainders and quotients by what
is not less than one.  In the other direction, a difference can only be finite if both operands
are (`isFinite_of_sub`).
-/
import Atelier.Proofs.Decimal.Remainder
import Atelier.Proofs.Decimal.Sum

namespace Atelier

open Float.Model
open Float.Model.UnpackedFloat (Sign roundWithAccuracy)

/-- What a finite double stands for, without its sign, is left by rounding. -/
lemma exists_rounded_abs {c : Float} (hc : c.isFinite = true) :
    ∃ v, Rounded v ∧ value v = |exact c| := by
  rcases abs_choice (exact c) with habs | habs
  · exact ⟨_, rounded_unpack hc, habs.symm⟩
  · exact ⟨_, (rounded_unpack hc).neg, by rw [value_neg, habs]; rfl⟩

/-- A number that is not larger than a finite double is not rounded to an infinity. -/
lemma NextTo.isFinite_pack {u : UnpackedFloat} {r : ℚ} (h : NextTo u r) {c : Float}
    (hc : c.isFinite = true) (hr : |r| ≤ |exact c|) :
    (Float.ofModel (.pack u)).isFinite = true := by
  obtain ⟨v, hrounded, hvalue⟩ := exists_rounded_abs hc
  obtain ⟨hlow, hhigh⟩ := abs_le.1 hr
  rcases unpack_pack_of_rounded h.rounded with hpack | ⟨s, m, e, hfits, he, rfl, -⟩
  · show (Float.Model.pack u).unpack.isFinite = true
    rw [hpack]
    cases h.rounded <;> rfl
  · -- What overflows lies beyond `c`, and so does not stand next to `r`.
    exfalso
    have hbeyond := abs_exact_lt hc hfits he
    cases s with
    | positive =>
      have hle := h.ge hrounded (by rwa [hvalue])
      rw [value_positive, hvalue] at hle
      exact absurd hle (not_le.2 hbeyond)
    | negative =>
      have hle := h.le hrounded.neg (by rwa [value_neg, hvalue])
      rw [value_neg, value_negative, hvalue] at hle
      exact absurd (neg_le_neg_iff.1 hle) (not_le.2 hbeyond)

/-- Rounding does not go beyond a finite double. -/
lemma NextTo.abs_exact_pack_le {u : UnpackedFloat} {r : ℚ} (h : NextTo u r) {c : Float}
    (hc : c.isFinite = true) (hr : |r| ≤ |exact c|) :
    |exact (.ofModel (.pack u))| ≤ |exact c| := by
  obtain ⟨v, hrounded, hvalue⟩ := exists_rounded_abs hc
  rw [abs_le, ← hvalue] at hr
  have hlow := h.le hrounded.neg (by rw [value_neg]; exact hr.1)
  have hhigh := h.ge hrounded hr.2
  rw [value_neg] at hlow
  rw [exact, ← hvalue]
  rcases unpack_pack_of_rounded h.rounded with hpack | ⟨s, _, _, _, _, -, hpack⟩
  · rw [hpack]
    exact abs_le.2 ⟨hlow, hhigh⟩
  · rw [hpack, hvalue]
    show |0| ≤ |exact c|
    rw [abs_zero]
    exact abs_nonneg _

/-! ## Numbers -/

lemma isFinite_neg {x : Float} (hx : x.isFinite = true) : (-x).isFinite = true := by
  rcases exists_of_isFinite hx with ⟨s, rfl⟩ | ⟨s, m, e, h, rfl⟩
  · cases s <;> rfl
  · rw [neg_of_finite h]
    exact isFinite_of_finite h (-s)

/-- A product of many bits is rounded to a double next to it. -/
lemma nextTo_mul {m₁ m₂ : ℕ} (h₁ : 0 < m₁) (h₂ : 0 < m₂) (hbits : 2 ^ 52 ≤ m₁ * m₂) (e₁ e₂ : ℤ) :
    NextTo (.mul .binary64 (.finite .positive m₁ e₁ h₁) (.finite .positive m₂ e₂ h₂))
      (m₁ * 2 ^ e₁ * (m₂ * 2 ^ e₂)) := by
  have hlog : 52 ≤ (m₁ * m₂).log2 := (Nat.le_log2 (Nat.mul_pos h₁ h₂).ne').2 hbits
  refine nextTo_roundWithAccuracy (.of_exact (m₁ * m₂)) ?_ (by positivity) ?_
  · rw [two_zpow_add]
    push_cast
    ring
  · rw [targetExponent_eq, totalExponent]
    omega

lemma nextTo_ofScientific {n : ℕ} (hn : 0 < n) {p : ℕ} (hp : p ≤ 2048) :
    NextTo (.ofScientific .binary64 n p) (n * 10 ^ p) := by
  have hbits : 2 ^ 52 ≤ n <<< 53 * 10 ^ (p : ℤ).toNat := by
    rw [Nat.shiftLeft_eq]
    calc 2 ^ 52 ≤ 1 * 2 ^ 53 * 1 := by norm_num
      _ ≤ n * 2 ^ 53 * 10 ^ (p : ℤ).toNat :=
          Nat.mul_le_mul (Nat.mul_le_mul_right _ hn) (Nat.one_le_pow _ _ (by norm_num))
  have hpos : 0 < n <<< 53 := by rw [Nat.shiftLeft_eq]; positivity
  have hproduct := nextTo_mul hpos (by positivity) hbits (-(53 : ℕ)) 0
  have hvalue : ((n <<< 53 : ℕ) : ℚ) * 2 ^ (-(53 : ℕ) : ℤ) *
      ((10 ^ (p : ℤ).toNat : ℕ) * 2 ^ (0 : ℤ)) = n * 10 ^ p := by
    have hshift := shiftLeft_mul_two_zpow n 53 0
    rw [zero_sub, zpow_zero, mul_one] at hshift
    rw [hshift, zpow_zero, mul_one, Int.toNat_natCast, Nat.cast_pow, Nat.cast_ofNat]
  rw [hvalue] at hproduct
  have hmany : ¬ (p : ℤ) > 2 ^ Format.binary64.exponentBits := by
    show ¬ 2048 < (p : ℤ)
    omega
  have hfew : ¬ (p : ℤ) < -((2 ^ Format.binary64.exponentBits : ℤ) + n.log2) := by
    show ¬ (p : ℤ) < -(2048 + (n.log2 : ℤ))
    omega
  rw [UnpackedFloat.ofScientific, dif_neg hn.ne', if_neg hmany, if_neg hfew,
    if_pos (Int.natCast_nonneg p)]
  exact hproduct

/-- The double of a natural number is next to it. -/
lemma exists_ofNat_eq {n : ℕ} (hn : 0 < n) :
    ∃ u, Float.ofNat n = .ofModel (.pack u) ∧ NextTo u n := by
  rcases lt_or_ge n (2 ^ 53) with hfew | hmany
  · -- With at most 53 bits it is a double itself.
    have h := canonical_shiftLeft hn hfew (j := 0) (by omega) (by omega)
    have hvalue := shiftLeft_mul_two_zpow n (52 - n.log2) 0
    rw [zpow_zero, mul_one] at hvalue
    have hself := RoundsTo.self (n <<< (52 - n.log2)) (0 - (52 - n.log2 : ℕ))
    have hnext := NextTo.of_rounded (.finite .positive h.toFits)
    rw [value_positive, hvalue] at hnext
    rw [hvalue] at hself
    exact ⟨_, ofScientific_eq h (p := 0) (by simpa using hself), hnext⟩
  · have hnext := nextTo_ofScientific hn (Nat.zero_le 2048)
    rw [pow_zero, mul_one] at hnext
    refine ⟨.ofScientific .binary64 n 0, ?_, hnext⟩
    show Float.ofScientific n false 0 = _
    rw [Float.ofScientific, dif_neg fun h => absurd h.1 (not_lt.2 hmany)]
    rfl

/-- A natural number of 64 bits is rounded to a finite double. -/
lemma isFinite_ofNat {n : ℕ} (hn : n < 2 ^ 64) : (Float.ofNat n).isFinite = true := by
  rcases Nat.eq_zero_or_pos n with rfl | hpos
  · exact isFinite_zero
  · obtain ⟨u, hu, hnext⟩ := exists_ofNat_eq hpos
    -- The least number of 65 bits is a double.
    have hlimit : Canonical (2 ^ 52) 12 := ⟨⟨by omega, by omega, by omega, .inl le_rfl⟩, by omega⟩
    rw [hu]
    refine hnext.isFinite_pack (isFinite_of_finite hlimit .positive) ?_
    rw [exact, unpack_pack hlimit, value_positive, Nat.abs_cast]
    have hle : (n : ℚ) ≤ 2 ^ 64 := by exact_mod_cast hn.le
    exact hle.trans (by norm_num)

/-! ## Products and quotients -/

section

variable {u : UnpackedFloat} {m : ℕ} {e : ℤ}

/-- A product with a positive number of 53 bits is rounded to a double next to it. -/
lemma Rounded.nextTo_mul (hu : Rounded u) (h : Fits m e) (hbits : 2 ^ 52 ≤ m) :
    NextTo (.mul .binary64 u (.finite .positive m e h.pos)) (value u * (m * 2 ^ e)) := by
  cases hu with
  | zero s =>
    show NextTo (.zero (s * .positive)) (0 * (m * 2 ^ e))
    rw [zero_mul]
    exact .of_rounded (.zero _)
  | @finite s m' e' h' =>
    have hproduct := Atelier.nextTo_mul h'.pos h.pos
      (hbits.trans (Nat.le_mul_of_pos_left m h'.pos)) e' e
    have hsign : s * Sign.positive = s := by cases s <;> rfl
    rw [UnpackedFloat.mul, hsign]
    cases s with
    | negative =>
      rw [roundWithAccuracy_negative, value_negative, neg_mul]
      exact hproduct.neg
    | positive =>
      rw [value_positive]
      exact hproduct

/-- A quotient with a positive divisor is rounded to a double next to it. -/
lemma Rounded.nextTo_div (hu : Rounded u) (h : Fits m e) :
    NextTo (.div .binary64 u (.finite .positive m e h.pos)) (value u / (m * 2 ^ e)) := by
  cases hu with
  | zero s =>
    show NextTo (.zero (s / .positive)) (0 / (m * 2 ^ e))
    rw [zero_div]
    exact .of_rounded (.zero _)
  | @finite s m' e' h' =>
    obtain ⟨n, f, a, x, hdiv, hx, hxr, hf⟩ := exists_div_eq h'.pos h.pos e' e s
    have hround := nextTo_roundWithAccuracy hx hxr (div_pos h'.number_pos h.number_pos) hf
    rw [hdiv]
    cases s with
    | negative =>
      rw [roundWithAccuracy_negative, value_negative, neg_div]
      exact hround.neg
    | positive => rwa [value_positive]

variable {x y c : Float}

/-- A finite double that is positive has a significand and an exponent. -/
lemma exists_unpack_of_exact_pos (hy : y.isFinite = true) (hpos : 0 < exact y) :
    ∃ m e, ∃ h : Canonical m e, y.toModel.unpack = .finite .positive m e h.pos := by
  have hrounded := rounded_unpack hy
  rw [exact] at hpos
  cases hunpack : y.toModel.unpack with
  | finite s m e hm =>
    have h := canonical_of_unpack hunpack
    cases s with
    | negative =>
      rw [hunpack, value_negative] at hpos
      exact absurd hpos (not_lt.2 (neg_nonpos.2 h.number_pos.le))
    | positive => exact ⟨m, e, h, rfl⟩
  | _ =>
    rw [hunpack] at hpos
    exact absurd hpos (lt_irrefl 0)

/-- What is not less than one has 53 bits. -/
lemma Fits.two_pow_le_of_one_le {m : ℕ} {e : ℤ} (h : Fits m e) (hone : 1 ≤ (m : ℚ) * 2 ^ e) :
    2 ^ 52 ≤ m := by
  refine h.normal.resolve_right ?_
  rintro rfl
  have hm : (m : ℚ) < 2 ^ (53 : ℤ) := by exact_mod_cast h.lt
  have hlt : (m : ℚ) * 2 ^ (-1074 : ℤ) < 1 := by
    calc (m : ℚ) * 2 ^ (-1074 : ℤ) < 2 ^ (53 : ℤ) * 2 ^ (-1074 : ℤ) :=
          mul_lt_mul_of_pos_right hm (two_zpow_pos _)
      _ = 2 ^ (-1021 : ℤ) := (two_zpow_add _ _).symm
      _ ≤ 1 := zpow_le_one_of_nonpos₀ one_le_two (by norm_num)
  linarith

/-- A product with a double that is not less than one is rounded to a double next to it. -/
lemma exists_mul_eq (hx : x.isFinite = true) (hy : y.isFinite = true) (hone : 1 ≤ exact y) :
    ∃ u, x * y = .ofModel (.pack u) ∧ NextTo u (exact x * exact y) := by
  obtain ⟨m, e, hcanonical, hunpack⟩ := exists_unpack_of_exact_pos hy (by linarith)
  rw [exact, hunpack, value_positive] at hone
  refine ⟨.mul .binary64 x.toModel.unpack y.toModel.unpack, rfl, ?_⟩
  rw [exact, exact, hunpack, value_positive]
  exact (rounded_unpack hx).nextTo_mul hcanonical.toFits
    (hcanonical.toFits.two_pow_le_of_one_le hone)

/-- So is a quotient. -/
lemma exists_div_eq_pack (hx : x.isFinite = true) (hy : y.isFinite = true) (hone : 1 ≤ exact y) :
    ∃ u, x / y = .ofModel (.pack u) ∧ NextTo u (exact x / exact y) := by
  obtain ⟨m, e, hcanonical, hunpack⟩ := exists_unpack_of_exact_pos hy (by linarith)
  refine ⟨.div .binary64 x.toModel.unpack y.toModel.unpack, rfl, ?_⟩
  rw [exact, exact, hunpack, value_positive]
  exact (rounded_unpack hx).nextTo_div hcanonical.toFits

/-- A product with a double that is not less than one is finite if it is not larger than a finite
double. -/
lemma isFinite_mul (hx : x.isFinite = true) (hy : y.isFinite = true) (hone : 1 ≤ exact y)
    (hc : c.isFinite = true) (h : |exact x * exact y| ≤ |exact c|) : (x * y).isFinite = true := by
  obtain ⟨u, hu, hnext⟩ := exists_mul_eq hx hy hone
  rw [hu]
  exact hnext.isFinite_pack hc h

/-- What is divided by a double that is not less than one stays finite. -/
lemma isFinite_div (hx : x.isFinite = true) (hy : y.isFinite = true) (hone : 1 ≤ exact y) :
    (x / y).isFinite = true := by
  obtain ⟨u, hu, hnext⟩ := exists_div_eq_pack hx hy hone
  rw [hu]
  refine hnext.isFinite_pack hx ?_
  rw [abs_div, abs_of_pos (one_pos.trans_le hone)]
  exact div_le_self (abs_nonneg _) hone

end

/-! ## Remainders -/

section

variable {x y : Float}

lemma isFinite_toFloat {c : Float} {n : ℕ} {q : ℤ} (hc : c.isFinite = true)
    (h : (n : ℚ) * 2 ^ q ≤ |exact c|) : (Binary.toFloat ⟨n, q⟩).isFinite = true := by
  rw [Binary.toFloat]
  split
  · exact isFinite_zero
  · rename_i hn
    refine (nextTo_round (Nat.pos_of_ne_zero hn) q).isFinite_pack hc ?_
    rwa [abs_of_nonneg (by positivity)]

/-- A remainder is not larger than what it is the remainder of. -/
lemma isFinite_remainder (hx : x.isFinite = true) (hy : y.isFinite = true)
    (hzero : (y == 0) = false) : (remainder x y).isFinite = true := by
  rw [remainder, isNaN_of_isFinite hx, isNaN_of_isFinite hy, isInf_of_isFinite hx,
    isInf_of_isFinite hy, hzero]
  simp only [Bool.or_self, Bool.false_eq_true, if_false]
  generalize hq : min (Binary.ofFloat x).exponent (Binary.ofFloat y).exponent = q
  have hmod : (((Binary.ofFloat x).scaled q % (Binary.ofFloat y).scaled q : ℕ) : ℚ) * 2 ^ q ≤
      |exact x| := by
    rw [← significand_mul_eq_abs x, ← scaled_mul_two_zpow (Binary.ofFloat x) (hq ▸ min_le_left _ _)]
    have hle := Nat.mod_le ((Binary.ofFloat x).scaled q) ((Binary.ofFloat y).scaled q)
    exact mul_le_mul_of_nonneg_right (by exact_mod_cast hle) (two_zpow_pos q).le
  split
  · exact isFinite_neg (isFinite_toFloat hx hmod)
  · exact isFinite_toFloat hx hmod

/-! ## Absolute values -/

lemma Rounded.abs {u : UnpackedFloat} (hu : Rounded u) : Rounded u.abs := by
  cases hu with
  | zero s => exact .zero .positive
  | finite s h => exact .finite .positive h

lemma value_abs (u : UnpackedFloat) : value u.abs = |value u| := by
  cases u with
  | finite s m e hm =>
    have hnonneg : (0 : ℚ) ≤ m * 2 ^ e := by positivity
    cases s with
    | negative =>
      rw [value_negative, abs_neg, abs_of_nonneg hnonneg]
      exact value_positive hm
    | positive =>
      rw [value_positive, abs_of_nonneg hnonneg]
      exact value_positive hm
  | _ => simp [UnpackedFloat.abs, value]

lemma isFinite_abs (hx : x.isFinite = true) : x.abs.isFinite = true := by
  refine (NextTo.of_rounded (rounded_unpack hx).abs).isFinite_pack hx ?_
  rw [value_abs, abs_abs]
  rfl

lemma exact_abs_nonneg (hx : x.isFinite = true) : 0 ≤ exact x.abs := by
  show 0 ≤ value (Float.Model.pack x.toModel.unpack.abs).unpack
  rcases unpack_pack_of_rounded (rounded_unpack hx).abs with hpack | ⟨s, _, _, _, _, _, hpack⟩
  · rw [hpack, value_abs]
    exact abs_nonneg _
  · rw [hpack]
    exact le_rfl

/-! ## Remainders that are not negative -/

/-- A sum that is not larger than a finite double is finite. -/
lemma isFinite_add {c : Float} (hx : x.isFinite = true) (hy : y.isFinite = true)
    (hc : c.isFinite = true) (h : |exact x + exact y| ≤ |exact c|) : (x + y).isFinite = true :=
  (nextTo_add (rounded_unpack hx) (rounded_unpack hy)).isFinite_pack hc h

lemma isFinite_euclideanRemainder (hx : x.isFinite = true) (hy : y.isFinite = true)
    (hzero : (y == 0) = false) : (euclideanRemainder x y).isFinite = true := by
  have hr := isFinite_remainder hx hy hzero
  have habs := isFinite_abs hy
  rw [euclideanRemainder]
  split
  · -- The two have different signs, and so the sum is not larger than one of them.
    rename_i hneg
    rw [lt_iff hr isFinite_zero, exact_zero] at hneg
    have hnonneg := exact_abs_nonneg hy
    rcases le_total 0 (exact (remainder x y) + exact y.abs) with hsum | hsum
    · refine isFinite_add hr habs habs ?_
      rw [abs_of_nonneg hsum, abs_of_nonneg hnonneg]
      linarith
    · refine isFinite_add hr habs hr ?_
      rw [abs_of_nonpos hsum, abs_of_neg hneg]
      linarith
  · exact hr

end

/-! ## Operands of finite results -/

lemma isFinite_infinity (s : Sign) :
    (Float.ofModel (.pack (.infinity s))).isFinite = false := by
  cases s <;> rfl

lemma isFinite_notANumber : (Float.ofModel (.pack .notANumber)).isFinite = false := rfl

/-- An infinity or NaN absorbs what is added to it. -/
lemma add_of_not_isFinite {u v : UnpackedFloat} (h : ¬ (u.isFinite = true ∧ v.isFinite = true)) :
    (∃ s, UnpackedFloat.add .binary64 u v = .infinity s) ∨
      UnpackedFloat.add .binary64 u v = .notANumber := by
  cases u with
  | notANumber => cases v <;> exact .inr rfl
  | infinity s =>
    cases v with
    | infinity s' =>
      -- Two infinities of different signs have no sum.
      cases s <;> cases s' <;> first | exact .inl ⟨_, rfl⟩ | exact .inr rfl
    | notANumber => exact .inr rfl
    | _ => exact .inl ⟨s, rfl⟩
  | _ =>
    cases v with
    | infinity s' => exact .inl ⟨s', rfl⟩
    | notANumber => exact .inr rfl
    | _ => exact absurd ⟨rfl, rfl⟩ h

lemma isFinite_of_pack_add {u v : UnpackedFloat}
    (h : (Float.ofModel (.pack (.add .binary64 u v))).isFinite = true) :
    u.isFinite = true ∧ v.isFinite = true := by
  by_contra hnot
  rcases add_of_not_isFinite hnot with ⟨s, hadd⟩ | hadd
  · rw [hadd, isFinite_infinity] at h
    cases h
  · rw [hadd, isFinite_notANumber] at h
    cases h

section

variable {x y : Float}

lemma isFinite_of_sub (h : (x - y).isFinite = true) : x.isFinite = true ∧ y.isFinite = true := by
  change (Float.ofModel (.pack (.sub .binary64 x.toModel.unpack y.toModel.unpack))).isFinite =
    true at h
  rw [sub_eq_add_neg_unpacked] at h
  obtain ⟨hx, hy⟩ := isFinite_of_pack_add h
  refine ⟨hx, ?_⟩
  change y.toModel.unpack.isFinite = true
  cases hunpack : y.toModel.unpack with
  | zero | finite => rfl
  | _ =>
    rw [hunpack] at hy
    cases hy

lemma isFinite_of_abs (h : x.abs.isFinite = true) : x.isFinite = true := by
  by_contra hx
  rcases exists_of_not_isFinite hx with ⟨s, rfl⟩ | rfl
  · have habs : (Float.ofModel (.pack (.infinity s))).abs.isFinite = false := by cases s <;> rfl
    rw [habs] at h
    cases h
  · cases h

end

end Atelier
