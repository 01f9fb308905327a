/-
The double nearest to a decimal number.

A decimal number is read through one multiplication or division, which is rounded once: on
doubles where the factors are exact, and on integers where they are not.  Either way a number
that is nearest to a double is read as that double (`ofScientific_eq`).
-/
import Atelier.Proofs.Decimal.Rounding

namespace Atelier

open Float.Model
open Float.Model.UnpackedFloat

/-! ## Quotients and products -/

/-- A quotient with its remainder, as a significand with two further bits. -/
lemma standsFor_div (n : ℕ) {d : ℕ} (hd : 0 < d) :
    StandsFor (.ofMantissaAndAccuracy (n / d) (accuracyOfFraction (n % d) d)) ((n : ℚ) / d) := by
  have hd' : (0 : ℚ) < d := by exact_mod_cast hd
  have hquotient : (n : ℚ) / d = (n / d : ℕ) + ((n % d : ℕ) : ℚ) / d := by
    have hdiv : (n : ℚ) = d * (n / d : ℕ) + (n % d : ℕ) := by
      exact_mod_cast (Nat.div_add_mod n d).symm
    field_simp
    linarith
  have hlt : ((n % d : ℕ) : ℚ) / d < 1 := by
    rw [div_lt_one hd']
    exact_mod_cast Nat.mod_lt n hd
  rw [hquotient]
  generalize n % d = rest at *
  by_cases hzero : rest = 0
  · subst hzero
    exact ⟨0, by simp [accuracyOfFraction, ExtendedMantissa.ofMantissaAndAccuracy, half],
      by simp [accuracyOfFraction, ExtendedMantissa.ofMantissaAndAccuracy]⟩
  · have hpos : (0 : ℚ) < rest / d :=
      div_pos (by exact_mod_cast Nat.pos_of_ne_zero hzero) hd'
    rw [accuracyOfFraction, if_neg hzero]
    rcases lt_trichotomy (2 * rest) d with hhalf | hhalf | hhalf
    · have hbelow : (rest : ℚ) / d < 1 / 2 := by
        rw [div_lt_div_iff₀ hd' two_pos]
        exact_mod_cast (by omega : rest * 2 < 1 * d)
      rw [Nat.compare_eq_lt.2 hhalf]
      exact ⟨rest / d, by simp [ExtendedMantissa.ofMantissaAndAccuracy, half], hpos.le, hbelow,
        by simp [ExtendedMantissa.ofMantissaAndAccuracy, hzero, hd.ne']⟩
    · have hexact : (rest : ℚ) / d = 1 / 2 := by
        rw [div_eq_div_iff hd'.ne' two_ne_zero]
        exact_mod_cast (by omega : rest * 2 = 1 * d)
      rw [Nat.compare_eq_eq.2 hhalf, hexact]
      exact ⟨0, by simp [ExtendedMantissa.ofMantissaAndAccuracy, half],
        by simp [ExtendedMantissa.ofMantissaAndAccuracy]⟩
    · have habove : 1 / 2 < (rest : ℚ) / d := by
        rw [div_lt_div_iff₀ two_pos hd']
        exact_mod_cast (by omega : 1 * d < rest * 2)
      rw [Nat.compare_eq_gt.2 hhalf]
      refine ⟨rest / d - 1 / 2, ?_, by linarith, by linarith, ?_⟩
      · simp only [ExtendedMantissa.ofMantissaAndAccuracy, half, if_true]
        ring
      · simp only [ExtendedMantissa.ofMantissaAndAccuracy, Bool.true_eq_false, false_iff]
        linarith

/-- Division computes enough bits of the quotient before it rounds. -/
lemma le_targetExponent_div {m₁ m₂ k : ℕ} {t : ℤ} (h₁ : 0 < m₁) (h₂ : 0 < m₂)
    (hk : t ≤ -1074 ∨ m₂.log2 + 53 ≤ m₁.log2 + k) :
    t ≤ Format.binary64.targetExponent (totalExponent (m₁ <<< k / m₂) t) := by
  rw [targetExponent_eq, totalExponent]
  rcases hk with hk | hk
  · omega
  · have hquotient : 2 ^ 52 ≤ m₁ <<< k / m₂ := by
      rw [Nat.le_div_iff_mul_le h₂, Nat.shiftLeft_eq]
      calc 2 ^ 52 * m₂ ≤ 2 ^ 52 * 2 ^ (m₂.log2 + 1) :=
            Nat.mul_le_mul_left _ Nat.lt_log2_self.le
        _ = 2 ^ (m₂.log2 + 53) := by rw [← Nat.pow_add]; congr 1; omega
        _ ≤ 2 ^ (m₁.log2 + k) := Nat.pow_le_pow_right two_pos hk
        _ = 2 ^ m₁.log2 * 2 ^ k := Nat.pow_add _ _ _
        _ ≤ m₁ * 2 ^ k := Nat.mul_le_mul_right _ (Nat.log2_self_le h₁.ne')
    have hlog : 52 ≤ (m₁ <<< k / m₂).log2 :=
      (Nat.le_log2 (by omega)).2 hquotient
    omega

/-- Division rounds a quotient that stands for the exact one. -/
lemma exists_div_eq {m₁ m₂ : ℕ} (h₁ : 0 < m₁) (h₂ : 0 < m₂) (e₁ e₂ : ℤ) (s : Sign) :
    ∃ n f a x, UnpackedFloat.div .binary64 (.finite s m₁ e₁ h₁) (.finite .positive m₂ e₂ h₂) =
        roundWithAccuracy .binary64 s n f a ∧
      StandsFor (.ofMantissaAndAccuracy n a) x ∧ x * 2 ^ f = m₁ * 2 ^ e₁ / (m₂ * 2 ^ e₂) ∧
      f ≤ Format.binary64.targetExponent (totalExponent n f) := by
  have hsign : s / Sign.positive = s := by cases s <;> rfl
  have htarget := targetExponent_eq (totalExponent m₁ e₁ - totalExponent m₂ e₂)
  simp only [totalExponent] at htarget
  simp only [UnpackedFloat.div, divCore, totalExponent, htarget, hsign]
  generalize ht : min (e₁ - e₂) (max ((m₁.log2 : ℤ) + 1 + e₁ - (m₂.log2 + 1 + e₂) - 53) (-1074)) = t
  generalize hk : (e₁ - e₂ - t).toNat = k
  refine ⟨_, _, _, _, rfl, standsFor_div (m₁ <<< k) h₂, ?_, le_targetExponent_div h₁ h₂ (by omega)⟩
  have hexponent : e₁ = (k : ℤ) + t + e₂ := by omega
  have hpos := (two_zpow_pos e₂).ne'
  have hpos' : (m₂ : ℚ) ≠ 0 := by exact_mod_cast h₂.ne'
  rw [hexponent, two_zpow_add, two_zpow_add, zpow_natCast, Nat.shiftLeft_eq]
  push_cast
  field_simp

/-- Division rounds once. -/
lemma div_eq {m : ℕ} {e : ℤ} (h : Canonical m e) {m₁ m₂ : ℕ} {e₁ e₂ : ℤ} (h₁ : 0 < m₁)
    (h₂ : 0 < m₂) (hr : RoundsTo m e (m₁ * 2 ^ e₁ / (m₂ * 2 ^ e₂))) :
    UnpackedFloat.div .binary64 (.finite .positive m₁ e₁ h₁) (.finite .positive m₂ e₂ h₂) =
      .finite .positive m e h.pos := by
  obtain ⟨n, f, a, x, hdiv, hx, hxr, hf⟩ := exists_div_eq h₁ h₂ e₁ e₂ .positive
  rw [hdiv]
  exact roundWithAccuracy_eq h.toFits hr hx hxr hf .positive

/-- Multiplication rounds once. -/
lemma mul_eq {m : ℕ} {e : ℤ} (h : Canonical m e) {m₁ m₂ : ℕ} {e₁ e₂ : ℤ} (h₁ : 0 < m₁)
    (h₂ : 0 < m₂) (hr : RoundsTo m e (m₁ * 2 ^ e₁ * (m₂ * 2 ^ e₂))) (hbits : 2 ^ 52 ≤ m₁ * m₂) :
    UnpackedFloat.mul .binary64 (.finite .positive m₁ e₁ h₁) (.finite .positive m₂ e₂ h₂) =
      .finite .positive m e h.pos := by
  have hlog : 52 ≤ (m₁ * m₂).log2 := (Nat.le_log2 (Nat.mul_pos h₁ h₂).ne').2 hbits
  refine roundWithAccuracy_eq h.toFits hr (StandsFor.of_exact (m₁ * m₂)) ?_ ?_ .positive
  · rw [two_zpow_add]
    push_cast
    ring
  · rw [targetExponent_eq, totalExponent]
    omega

/-! ## Exact doubles -/

/-- A double is nearest to itself. -/
lemma RoundsTo.self (m : ℕ) (e : ℤ) : RoundsTo m e (m * 2 ^ e) := by
  have hpos := two_zpow_pos e
  have hreach := reachBelow_pos m e
  have hlow : ((m : ℚ) - reachBelow m e) * 2 ^ e < m * 2 ^ e :=
    mul_lt_mul_of_pos_right (by linarith) hpos
  have hhigh : (m : ℚ) * 2 ^ e < (m + 1 / 2) * 2 ^ e :=
    mul_lt_mul_of_pos_right (by linarith) hpos
  refine ⟨hlow.le, hhigh.le, ?_⟩
  rintro (heq | heq)
  · exact absurd heq hlow.ne'
  · exact absurd heq hhigh.ne

/-- A number that is a double is rounded to it. -/
lemma round_of_fits {m : ℕ} {e : ℤ} (h : Fits m e) {n : ℕ} (hn : 0 < n) {f : ℤ}
    (hexact : (n : ℚ) * 2 ^ f = m * 2 ^ e) (s : Sign) :
    UnpackedFloat.round .binary64 s n f = .finite s m e h.pos := by
  obtain ⟨n', f', hvalue, hf, hround⟩ := exists_round_eq hn f s
  rw [hround]
  exact roundWithAccuracy_eq h (.self m e) (.of_exact n') (hvalue.trans hexact) hf s

/-- The bits of a number, moved to the front. -/
lemma two_pow_le_shiftLeft {n : ℕ} (hn : 0 < n) (hlt : n < 2 ^ 53) :
    2 ^ 52 ≤ n <<< (52 - n.log2) := by
  have hlog : n.log2 < 53 := (Nat.log2_lt hn.ne').2 hlt
  have hsum : n.log2 + (52 - n.log2) = 52 := by omega
  rw [Nat.shiftLeft_eq]
  calc 2 ^ 52 = 2 ^ n.log2 * 2 ^ (52 - n.log2) := by rw [← Nat.pow_add, hsum]
    _ ≤ n * 2 ^ (52 - n.log2) := Nat.mul_le_mul_right _ (Nat.log2_self_le hn.ne')

lemma canonical_shiftLeft {n : ℕ} (hn : 0 < n) (hlt : n < 2 ^ 53) {j : ℤ} (hlow : -1022 ≤ j)
    (hhigh : j ≤ 971) : Canonical (n <<< (52 - n.log2)) (j - (52 - n.log2 : ℕ)) := by
  have hlog : n.log2 < 53 := (Nat.log2_lt hn.ne').2 hlt
  have hsum : n.log2 + 1 + (52 - n.log2) = 53 := by omega
  have hbits : n <<< (52 - n.log2) < 2 ^ 53 := by
    rw [Nat.shiftLeft_eq]
    calc n * 2 ^ (52 - n.log2) < 2 ^ (n.log2 + 1) * 2 ^ (52 - n.log2) :=
          Nat.mul_lt_mul_of_pos_right Nat.lt_log2_self (by positivity)
      _ = 2 ^ 53 := by rw [← Nat.pow_add, hsum]
  have hnormal := two_pow_le_shiftLeft hn hlt
  exact ⟨⟨by omega, hbits, by omega, .inl hnormal⟩, by omega⟩

/-- A number with at most 53 bits is rounded to itself. -/
lemma round_eq {n : ℕ} (hn : 0 < n) (hlt : n < 2 ^ 53) {j : ℤ} (hlow : -1022 ≤ j)
    (hhigh : j ≤ 971) (s : Sign) :
    UnpackedFloat.round .binary64 s n j =
      .finite s (n <<< (52 - n.log2)) (j - (52 - n.log2 : ℕ))
        (canonical_shiftLeft hn hlt hlow hhigh).pos :=
  round_of_fits (canonical_shiftLeft hn hlt hlow hhigh).toFits hn
    (shiftLeft_mul_two_zpow n _ j).symm s

/-- The double that is exactly `n * 2 ^ j`. -/
def exactly (n : ℕ) (j : ℤ) : Float :=
  .ofModel (.pack (.round .binary64 .positive n j))

lemma unpack_exactly {n : ℕ} (hn : 0 < n) (hlt : n < 2 ^ 53) {j : ℤ} (hlow : -1022 ≤ j)
    (hhigh : j ≤ 971) :
    (exactly n j).toModel.unpack =
      .finite .positive (n <<< (52 - n.log2)) (j - (52 - n.log2 : ℕ))
        (canonical_shiftLeft hn hlt hlow hhigh).pos := by
  rw [exactly, round_eq hn hlt hlow hhigh]
  exact unpack_pack (canonical_shiftLeft hn hlt hlow hhigh) _ _

lemma toFloat_toUInt64 {n : ℕ} (hn : 0 < n) (hlt : n < 2 ^ 53) :
    n.toUInt64.toFloat = exactly n 0 := by
  have htoNat : n.toUInt64.toNat = n := by
    rw [Nat.toUInt64, UInt64.toNat_ofNat']
    exact Nat.mod_eq_of_lt (by omega)
  show Float.ofModel (.pack (.ofNat .binary64 n.toUInt64.toNat)) = _
  have hcompare : compare (n : ℤ) 0 = .gt := Int.compare_eq_gt.2 (by omega)
  rw [htoNat, UnpackedFloat.ofNat, UnpackedFloat.ofInt, UnpackedFloat.normalize, hcompare, exactly]
  rfl

/-- The powers of ten that are doubles. -/
lemma powersOfTen_eq {k : ℕ} (hk : k < Float.exactlyRepresentablePowersOfTen.size) :
    Float.exactlyRepresentablePowersOfTen[k] = exactly (5 ^ k) k := by
  -- The table is finite.
  have hall : ∀ i : Fin 23, Float.exactlyRepresentablePowersOfTen[i] = exactly (5 ^ i.1) i.1 := by
    decide +kernel
  exact hall ⟨k, hk⟩

/-! ## Decimal numbers -/

section

variable {m : ℕ} {e : ℤ} (h : Canonical m e)

include h

lemma exactly_div_exactly {n n' : ℕ} {j j' : ℤ} (hn : 0 < n) (hlt : n < 2 ^ 53)
    (hlow : -1022 ≤ j) (hhigh : j ≤ 971) (hn' : 0 < n') (hlt' : n' < 2 ^ 53) (hlow' : -1022 ≤ j')
    (hhigh' : j' ≤ 971) (hr : RoundsTo m e (n * 2 ^ j / (n' * 2 ^ j'))) :
    exactly n j / exactly n' j' = .ofModel (.pack (.finite .positive m e h.pos)) := by
  show Float.ofModel (.pack (.div .binary64 (exactly n j).toModel.unpack
    (exactly n' j').toModel.unpack)) = _
  rw [unpack_exactly hn hlt hlow hhigh, unpack_exactly hn' hlt' hlow' hhigh', div_eq h]
  rwa [shiftLeft_mul_two_zpow, shiftLeft_mul_two_zpow]

lemma exactly_mul_exactly {n n' : ℕ} {j j' : ℤ} (hn : 0 < n) (hlt : n < 2 ^ 53)
    (hlow : -1022 ≤ j) (hhigh : j ≤ 971) (hn' : 0 < n') (hlt' : n' < 2 ^ 53) (hlow' : -1022 ≤ j')
    (hhigh' : j' ≤ 971) (hr : RoundsTo m e (n * 2 ^ j * (n' * 2 ^ j'))) :
    exactly n j * exactly n' j' = .ofModel (.pack (.finite .positive m e h.pos)) := by
  show Float.ofModel (.pack (.mul .binary64 (exactly n j).toModel.unpack
    (exactly n' j').toModel.unpack)) = _
  rw [unpack_exactly hn hlt hlow hhigh, unpack_exactly hn' hlt' hlow' hhigh', mul_eq h]
  · rwa [shiftLeft_mul_two_zpow, shiftLeft_mul_two_zpow]
  · have hbits := two_pow_le_shiftLeft hn hlt
    have hpos := (canonical_shiftLeft hn' hlt' hlow' hhigh').pos
    exact hbits.trans (Nat.le_mul_of_pos_right _ hpos)

/-- A number nearest to a double is neither very small nor very large. -/
lemma RoundsTo.bounds {r : ℚ} (hr : RoundsTo m e r) : 2 ^ (-1075 : ℤ) ≤ r ∧ r < 2 ^ (1024 : ℤ) := by
  have hpos := two_zpow_pos e
  constructor
  · have hone : (1 : ℚ) ≤ m := by exact_mod_cast h.pos
    have hsmall : (2 : ℚ) ^ (-1074 : ℤ) ≤ 2 ^ e := zpow_le_zpow_right₀ one_le_two h.low
    calc (2 : ℚ) ^ (-1075 : ℤ) = 1 / 2 * 2 ^ (-1074 : ℤ) := by
          rw [one_div, ← zpow_neg_one, ← two_zpow_add]
          rfl
      _ ≤ 1 / 2 * 2 ^ e := by linarith
      _ ≤ (m - reachBelow m e) * 2 ^ e :=
          mul_le_mul_of_nonneg_right (by linarith [reachBelow_le m e]) hpos.le
      _ ≤ r := hr.low
  · have hm : (m : ℚ) + 1 ≤ 2 ^ 53 := by exact_mod_cast h.lt
    have hlarge : (2 : ℚ) ^ e ≤ 2 ^ (971 : ℤ) := zpow_le_zpow_right₀ one_le_two h.high
    calc r ≤ (m + 1 / 2) * 2 ^ e := hr.high
      _ < 2 ^ 53 * 2 ^ e := mul_lt_mul_of_pos_right (by linarith) hpos
      _ ≤ 2 ^ 53 * 2 ^ (971 : ℤ) := mul_le_mul_of_nonneg_left hlarge (by positivity)
      _ = 2 ^ (1024 : ℤ) := by
          rw [← zpow_natCast, ← two_zpow_add]
          rfl

omit h in
lemma two_zpow_le_ten_zpow {p : ℤ} (hp : 0 ≤ p) : (2 : ℚ) ^ p ≤ 10 ^ p :=
  zpow_le_zpow_left₀ hp two_pos.le (by norm_num)

omit h in
lemma ten_zpow_le_two_zpow {p : ℤ} (hp : p ≤ 0) : (10 : ℚ) ^ p ≤ 2 ^ p := by
  rw [← neg_neg p, zpow_neg, zpow_neg 2]
  exact inv_anti₀ (two_zpow_pos (-p)) (two_zpow_le_ten_zpow (by omega))

/-- With few digits and a small power of ten both factors are doubles. -/
lemma ofScientific_eq_of_exact {c k : ℕ} {negative : Bool} (hc : 0 < c) (hlt : c < 2 ^ 53)
    (hk : k ≤ 22) (hr : RoundsTo m e (c * 10 ^ (if negative then -(k : ℤ) else k))) :
    Float.ofScientific c negative k = .ofModel (.pack (.finite .positive m e h.pos)) := by
  have hsize : k < Float.exactlyRepresentablePowersOfTen.size := by
    show k < 23
    omega
  have hpower : 5 ^ k < 2 ^ 53 :=
    (Nat.pow_le_pow_right (by omega) hk).trans_lt (by norm_num)
  have hten : ((5 ^ k : ℕ) : ℚ) * 2 ^ (k : ℤ) = 10 ^ k := by
    rw [zpow_natCast]
    push_cast
    rw [← mul_pow]
    norm_num
  rw [Float.ofScientific, dif_pos ⟨hlt, hk⟩]
  simp only [powersOfTen_eq hsize, toFloat_toUInt64 hc hlt]
  cases negative with
  | true =>
    refine exactly_div_exactly h hc hlt (by omega) (by omega) (by positivity) hpower (by omega)
      (by omega) ?_
    rw [hten, zpow_zero, mul_one]
    simpa [zpow_neg, div_eq_mul_inv] using hr
  | false =>
    refine exactly_mul_exactly h hc hlt (by omega) (by omega) (by positivity) hpower (by omega)
      (by omega) ?_
    rw [hten, zpow_zero, mul_one]
    simpa using hr

/-- With more digits the same is done on integers. -/
lemma unpackedOfScientific_eq {c : ℕ} {p : ℤ} (hc : 0 < c) (hr : RoundsTo m e (c * 10 ^ p)) :
    UnpackedFloat.ofScientific .binary64 c p = .finite .positive m e h.pos := by
  obtain ⟨hsmall, hlarge⟩ := hr.bounds h
  have hc' : (1 : ℚ) ≤ c := by exact_mod_cast hc
  have hten : (0 : ℚ) < 10 ^ p := zpow_pos (by norm_num) p
  have hnotLarge : ¬ p > 2 ^ Format.binary64.exponentBits := by
    intro hp
    change 2048 < p at hp
    have hpower : (2 : ℚ) ^ p < 2 ^ (1024 : ℤ) := by
      calc (2 : ℚ) ^ p ≤ 10 ^ p := two_zpow_le_ten_zpow (by omega)
        _ ≤ c * 10 ^ p := le_mul_of_one_le_left hten.le hc'
        _ < 2 ^ (1024 : ℤ) := hlarge
    have hexponent := lt_of_two_zpow_lt hpower
    omega
  have hnotSmall : ¬ p < -((2 ^ Format.binary64.exponentBits : ℤ) + c.log2) := by
    intro hp
    change p < -(2048 + (c.log2 : ℤ)) at hp
    have hdigits : (c : ℚ) < 2 ^ ((c.log2 : ℤ) + 1) := by
      have hlog : (c : ℚ) < 2 ^ (c.log2 + 1) := by exact_mod_cast Nat.lt_log2_self
      rwa [← zpow_natCast] at hlog
    have hpower : (2 : ℚ) ^ (-1075 : ℤ) < 2 ^ ((c.log2 : ℤ) + 1 + p) := by
      calc (2 : ℚ) ^ (-1075 : ℤ) ≤ c * 10 ^ p := hsmall
        _ < 2 ^ ((c.log2 : ℤ) + 1) * 10 ^ p := mul_lt_mul_of_pos_right hdigits hten
        _ ≤ 2 ^ ((c.log2 : ℤ) + 1) * 2 ^ p :=
            mul_le_mul_of_nonneg_left (ten_zpow_le_two_zpow (by omega)) (two_zpow_pos _).le
        _ = 2 ^ ((c.log2 : ℤ) + 1 + p) := (two_zpow_add _ _).symm
    have hexponent := lt_of_two_zpow_lt hpower
    omega
  rw [UnpackedFloat.ofScientific, dif_neg hc.ne', if_neg hnotLarge, if_neg hnotSmall]
  split
  · rename_i hp
    have hpower : (10 : ℚ) ^ p = (10 ^ p.toNat : ℕ) := by
      obtain ⟨k, rfl⟩ := Int.eq_ofNat_of_zero_le hp
      simp
    have hbits : 2 ^ 52 ≤ c <<< 53 * 10 ^ p.toNat := by
      rw [Nat.shiftLeft_eq]
      calc 2 ^ 52 ≤ 1 * 2 ^ 53 * 1 := by norm_num
        _ ≤ c * 2 ^ 53 * 10 ^ p.toNat :=
            Nat.mul_le_mul (Nat.mul_le_mul_right _ hc) (Nat.one_le_pow _ _ (by norm_num))
    have hshift := shiftLeft_mul_two_zpow c 53 0
    rw [zero_sub, zpow_zero, mul_one] at hshift
    refine mul_eq h _ _ ?_ hbits
    show RoundsTo m e (((c <<< 53 : ℕ) : ℚ) * 2 ^ (-(53 : ℕ) : ℤ) *
      (((10 ^ p.toNat : ℕ) : ℚ) * 2 ^ (0 : ℤ)))
    rwa [hshift, zpow_zero, mul_one, ← hpower]
  · rename_i hp
    have hpower : (10 : ℚ) ^ p = 1 / (10 ^ (-p).toNat : ℕ) := by
      obtain ⟨k, hk⟩ := Int.eq_ofNat_of_zero_le (show 0 ≤ -p by omega)
      obtain rfl : p = -(k : ℤ) := by omega
      simp
    refine div_eq h _ _ ?_
    rwa [zpow_zero, mul_one, mul_one, div_eq_mul_one_div, ← hpower]

/-- A decimal number is read as the double nearest to it. -/
theorem ofScientific_eq {c : ℕ} {p : ℤ} (hr : RoundsTo m e (c * 10 ^ p)) :
    Float.ofScientific c (p < 0) p.natAbs = .ofModel (.pack (.finite .positive m e h.pos)) := by
  have hc : 0 < c := by
    refine Nat.pos_of_ne_zero ?_
    rintro rfl
    have hsmall := (hr.bounds h).1
    rw [Nat.cast_zero, zero_mul] at hsmall
    exact absurd hsmall (not_le.2 (two_zpow_pos _))
  have hsign : (if decide (p < 0) = true then -(p.natAbs : ℤ) else p.natAbs) = p := by
    simp only [decide_eq_true_eq]
    split <;> omega
  by_cases hexact : c < 2 ^ 53 ∧ p.natAbs ≤ 22
  · exact ofScientific_eq_of_exact h hc hexact.1 hexact.2 (by rwa [hsign])
  · have hpower :
        (if decide (p < 0) = true then Int.negOfNat p.natAbs else .ofNat p.natAbs) = p := by
      rw [Int.negOfNat_eq]
      exact hsign
    rw [Float.ofScientific, dif_neg hexact]
    simp only [hpower]
    rw [Float.Model.ofScientific, unpackedOfScientific_eq h hc hr]

end

end Atelier
