/-
Rounding to the nearest double.

A significand that is cut off keeps two bits about the rest.  `StandsFor` says which numbers
they allow, in units of the last place; shifting halves the number.  Every number that is
nearest to a double, ties to an even significand included, is rounded to it
(`roundWithAccuracy_eq`).  Just below a power of two the doubles stand twice as close; a number
there is cut off one place later and carried over by the rounding.
-/
import Atelier.Proofs.Decimal.Packing

namespace Atelier

open Float.Model
open Float.Model.UnpackedFloat

/-! ## Significands that are cut off -/

/-- What the round bit of a significand is worth, in units of the last place. -/
def half (roundBit : Bool) : ℚ :=
  if roundBit then 1 / 2 else 0

/-- A significand with its two further bits stands for the number `x`, in units of the last
place: the rest behind the round bit is less than a half, and the sticky bit tells whether there
is any. -/
def StandsFor (em : ExtendedMantissa) (x : ℚ) : Prop :=
  ∃ rest, x = em.mantissa + half em.roundBit + rest ∧ 0 ≤ rest ∧ rest < 1 / 2 ∧
    (em.stickyBit = false ↔ rest = 0)

lemma half_nonneg (roundBit : Bool) : 0 ≤ half roundBit := by
  cases roundBit <;> simp [half]

lemma half_le (roundBit : Bool) : half roundBit ≤ 1 / 2 := by
  cases roundBit <;> norm_num [half]

lemma half_eq_zero_iff {roundBit : Bool} : half roundBit = 0 ↔ roundBit = false := by
  cases roundBit <;> simp [half]

namespace StandsFor

variable {em : ExtendedMantissa} {x : ℚ}

lemma of_exact (n : ℕ) : StandsFor (.ofMantissaAndAccuracy n .exact) n :=
  ⟨0, by simp [ExtendedMantissa.ofMantissaAndAccuracy, half],
    by simp [ExtendedMantissa.ofMantissaAndAccuracy]⟩

/-- The significand is the whole part of the number. -/
lemma mantissa_le_and_lt (h : StandsFor em x) : em.mantissa ≤ x ∧ x < em.mantissa + 1 := by
  obtain ⟨rest, rfl, hnonneg, hlt, -⟩ := h
  have hround := half_nonneg em.roundBit
  have hround' := half_le em.roundBit
  constructor <;> linarith

/-- Dropping the last place halves the number. -/
lemma shiftRightOne (h : StandsFor em x) : StandsFor em.shiftRightOne (x / 2) := by
  obtain ⟨rest, rfl, hnonneg, hlt, hsticky⟩ := h
  have hround := half_nonneg em.roundBit
  have hround' := half_le em.roundBit
  refine ⟨(half em.roundBit + rest) / 2, ?_, by linarith, by linarith, ?_⟩
  · have hm : (em.mantissa : ℚ) = 2 * (em.mantissa / 2 : ℕ) + (em.mantissa % 2 : ℕ) := by
      exact_mod_cast (Nat.div_add_mod em.mantissa 2).symm
    have hbit : half (em.mantissa % 2 != 0) = ((em.mantissa % 2 : ℕ) : ℚ) / 2 := by
      rcases Nat.mod_two_eq_zero_or_one em.mantissa with hbit | hbit <;> simp [half, hbit]
    simp only [ExtendedMantissa.shiftRightOne]
    rw [hbit]
    linarith
  · simp only [ExtendedMantissa.shiftRightOne, Bool.or_eq_false_iff]
    constructor
    · rintro ⟨hbit, hrest⟩
      rw [half_eq_zero_iff.2 hbit, hsticky.1 hrest]
      norm_num
    · intro hzero
      exact ⟨half_eq_zero_iff.1 (by linarith), hsticky.2 (by linarith)⟩

lemma shiftRight (h : StandsFor em x) (k : ℕ) : StandsFor (em >>> k) (x / 2 ^ k) := by
  show StandsFor (k.repeat ExtendedMantissa.shiftRightOne em) (x / 2 ^ k)
  induction k with
  | zero => simpa [Nat.repeat] using h
  | succ k ih =>
    have hstep := ih.shiftRightOne
    rwa [div_div, ← pow_succ] at hstep

/-- A number goes to the nearest whole one, and from half-way to the even one. -/
lemma roundedMantissa_eq (h : StandsFor em x) {m : ℕ} (hlow : m - 1 / 2 ≤ x)
    (hhigh : x ≤ m + 1 / 2) (heven : x = m - 1 / 2 ∨ x = m + 1 / 2 → m % 2 = 0) :
    em.roundedMantissa = m := by
  obtain ⟨rest, hx, hnonneg, hlt, hsticky⟩ := h
  obtain ⟨n, round, sticky⟩ := em
  replace hsticky : sticky = false ↔ rest = 0 := hsticky
  have eq_of_lt {k : ℕ} (hk : (k : ℚ) < m + 1) (hm : (m : ℚ) < k + 1) : k = m := by
    norm_cast at hk hm
    omega
  cases round with
  | false =>
    -- The number is nearer to `n` than to `n + 1`.
    simp only [half, Bool.false_eq_true, if_false, add_zero] at hx
    have hround : ExtendedMantissa.roundedMantissa ⟨n, false, sticky⟩ = n := by
      cases sticky <;> rfl
    rw [hround]
    exact eq_of_lt (by linarith) (by linarith)
  | true =>
    simp only [half, if_true] at hx
    cases sticky with
    | true =>
      have hne : rest ≠ 0 := fun hzero => by simpa using hsticky.2 hzero
      have hpos : 0 < rest := lt_of_le_of_ne hnonneg hne.symm
      show n + 1 = m
      exact eq_of_lt (by push_cast; linarith) (by push_cast; linarith)
    | false =>
      -- Half-way: `m` is the even one of `n` and `n + 1`.
      have hzero : rest = 0 := hsticky.1 rfl
      show n + n % 2 = m
      have hle : n ≤ m := by
        have hlt : (n : ℚ) < m + 1 := by linarith
        norm_cast at hlt
        omega
      have hle' : m ≤ n + 1 := by
        have hlt : (m : ℚ) < n + 2 := by linarith
        norm_cast at hlt
        omega
      rcases Nat.eq_or_lt_of_le hle with rfl | hlt
      · have hparity : n % 2 = 0 := heven (.inr (by linarith))
        omega
      · obtain rfl : m = n + 1 := by omega
        have hparity : (n + 1) % 2 = 0 := heven (.inl (by push_cast; linarith))
        omega

end StandsFor

/-! ## Where a number is cut off -/

lemma targetExponent_eq (e : ℤ) :
    Format.binary64.targetExponent e = max (e - 53) (-1074) := rfl

/-- A number is cut off at the target exponent, if it does not end before. -/
lemma shiftToTargetExponent_eq {n : ℕ} {f : ℤ} (a : Accuracy)
    (hf : f ≤ Format.binary64.targetExponent (totalExponent n f)) :
    shiftToTargetExponent .binary64 n f a =
      (ExtendedMantissa.ofMantissaAndAccuracy n a >>>
          (Format.binary64.targetExponent (totalExponent n f) - f).toNat,
        Format.binary64.targetExponent (totalExponent n f)) := by
  rw [shiftToTargetExponent, shiftToExponent, Prod.mk.injEq]
  exact ⟨rfl, by omega⟩

/-- A significand of at most 53 bits over an exponent that is not too small is not cut off. -/
lemma shiftToTargetExponent_of_lt {n : ℕ} {f : ℤ} (hn : n < 2 ^ 53) (hf : -1074 ≤ f) :
    shiftToTargetExponent .binary64 n f .exact = (⟨n, false, false⟩, f) := by
  have hlog : n.log2 < 53 := by
    by_cases hzero : n = 0
    · simp [hzero]
    · exact (Nat.log2_lt hzero).2 hn
  have hshift : (Format.binary64.targetExponent (totalExponent n f) - f).toNat = 0 := by
    rw [targetExponent_eq, totalExponent]
    omega
  rw [shiftToTargetExponent, shiftToExponent, hshift, Prod.mk.injEq]
  exact ⟨rfl, by omega⟩

/-- A significand that was rounded up to `2 ^ 53` loses its last place. -/
lemma shiftToTargetExponent_two_pow {f : ℤ} (hf : -1074 ≤ f) :
    shiftToTargetExponent .binary64 (2 ^ 53) f .exact = (⟨2 ^ 52, false, false⟩, f + 1) := by
  have hshift : (Format.binary64.targetExponent (totalExponent (2 ^ 53) f) - f).toNat = 1 := by
    rw [targetExponent_eq, totalExponent, Nat.log2_two_pow]
    omega
  rw [shiftToTargetExponent, shiftToExponent, hshift, Prod.mk.injEq]
  exact ⟨rfl, rfl⟩

/-! ## The numbers nearest to a double -/

/-- How far below a double its numbers reach, in units of the last place: half-way to the next
double, which is half as far below a power of two. -/
def reachBelow (m : ℕ) (e : ℤ) : ℚ :=
  if m = 2 ^ 52 ∧ -1074 < e then 1 / 4 else 1 / 2

/-- The numbers nearest to the double `m * 2 ^ e`; half-way to a neighbour they belong to the
double with the even significand. -/
structure RoundsTo (m : ℕ) (e : ℤ) (r : ℚ) : Prop where
  low : (m - reachBelow m e) * 2 ^ e ≤ r
  high : r ≤ (m + 1 / 2) * 2 ^ e
  even : r = (m - reachBelow m e) * 2 ^ e ∨ r = (m + 1 / 2) * 2 ^ e → m % 2 = 0

lemma reachBelow_pos (m : ℕ) (e : ℤ) : 0 < reachBelow m e := by
  unfold reachBelow
  split <;> norm_num

lemma reachBelow_le (m : ℕ) (e : ℤ) : reachBelow m e ≤ 1 / 2 := by
  unfold reachBelow
  split <;> norm_num

lemma two_zpow_pos (e : ℤ) : (0 : ℚ) < 2 ^ e :=
  zpow_pos two_pos e

lemma two_zpow_add (a b : ℤ) : (2 : ℚ) ^ (a + b) = 2 ^ a * 2 ^ b :=
  zpow_add₀ two_ne_zero a b

lemma shiftLeft_mul_two_zpow (n k : ℕ) (j : ℤ) :
    ((n <<< k : ℕ) : ℚ) * 2 ^ (j - k) = n * 2 ^ j := by
  have hpow : (2 : ℚ) ^ j = 2 ^ k * 2 ^ (j - k) := by
    rw [← zpow_natCast, ← two_zpow_add]
    congr 1
    omega
  rw [Nat.shiftLeft_eq, hpow]
  push_cast
  ring

lemma lt_of_two_zpow_lt {a b : ℤ} (h : (2 : ℚ) ^ a < 2 ^ b) : a < b :=
  (zpow_lt_zpow_iff_right₀ one_lt_two).1 h

section

variable {m n : ℕ} {e f : ℤ} {r x : ℚ} {a : Accuracy}

/-- A number is rounded after it was written over an exponent that is small enough. -/
lemma exists_round_eq (hn : 0 < n) (f : ℤ) (s : Sign) :
    ∃ (n' : ℕ) (f' : ℤ), (n' : ℚ) * 2 ^ f' = n * 2 ^ f ∧
      f' ≤ Format.binary64.targetExponent (totalExponent n' f') ∧
      UnpackedFloat.round .binary64 s n f = roundWithAccuracy .binary64 s n' f' .exact := by
  refine ⟨_, _, shiftLeft_mul_two_zpow n
    (f - Format.binary64.targetExponent (totalExponent n f)).toNat f, ?_, rfl⟩
  simp only [targetExponent_eq, totalExponent]
  generalize hk : (f - max ((n.log2 : ℤ) + 1 + f - 53) (-1074)).toNat = k
  have hlog : n.log2 + k ≤ (n <<< k).log2 := by
    rw [Nat.le_log2 (by rw [Nat.shiftLeft_eq]; positivity), Nat.shiftLeft_eq, Nat.pow_add]
    exact Nat.mul_le_mul_right _ (Nat.log2_self_le hn.ne')
  omega

lemma mantissa_ofMantissaAndAccuracy (n : ℕ) (a : Accuracy) :
    (ExtendedMantissa.ofMantissaAndAccuracy n a).mantissa = n := by
  cases a with
  | exact => rfl
  | inexact o => cases o <;> rfl

/-- The bits of a significand bound what it stands for. -/
lemma lt_two_zpow_log2 (hx : StandsFor (.ofMantissaAndAccuracy n a) x) (hxr : x * 2 ^ f = r) :
    r < 2 ^ ((n.log2 : ℤ) + 1 + f) := by
  have hbound := hx.mantissa_le_and_lt.2
  rw [mantissa_ofMantissaAndAccuracy] at hbound
  have hn : (n : ℚ) + 1 ≤ 2 ^ (n.log2 + 1) := by exact_mod_cast Nat.lt_log2_self
  rw [← hxr, two_zpow_add]
  refine mul_lt_mul_of_pos_right ?_ (two_zpow_pos f)
  have hpow : (2 : ℚ) ^ ((n.log2 : ℤ) + 1) = 2 ^ (n.log2 + 1) := by
    rw [← zpow_natCast]
    rfl
  rw [hpow]
  linarith

lemma two_zpow_log2_le (hn : n ≠ 0) (hx : StandsFor (.ofMantissaAndAccuracy n a) x)
    (hxr : x * 2 ^ f = r) : 2 ^ ((n.log2 : ℤ) + f) ≤ r := by
  have hbound := hx.mantissa_le_and_lt.1
  rw [mantissa_ofMantissaAndAccuracy] at hbound
  have hn : (2 : ℚ) ^ n.log2 ≤ n := by exact_mod_cast Nat.log2_self_le hn
  rw [← hxr, two_zpow_add, zpow_natCast]
  exact mul_le_mul_of_nonneg_right (hn.trans hbound) (two_zpow_pos f).le

/-- A number nearest to a double is cut off no later than the double. -/
lemma targetExponent_le (h : Fits m e) (hr : RoundsTo m e r)
    (hx : StandsFor (.ofMantissaAndAccuracy n a) x) (hxr : x * 2 ^ f = r)
    (hf : f ≤ Format.binary64.targetExponent (totalExponent n f)) :
    Format.binary64.targetExponent (totalExponent n f) ≤ e := by
  have hlow := h.low
  rw [targetExponent_eq, totalExponent] at *
  by_cases hn : n = 0
  · subst hn
    rw [Nat.log2_zero] at *
    omega
  · have hlarge : r < 2 ^ (53 + e) := by
      have hm : (m : ℚ) + 1 ≤ 2 ^ 53 := by exact_mod_cast h.lt
      refine hr.high.trans_lt ?_
      rw [two_zpow_add]
      exact mul_lt_mul_of_pos_right (by norm_num at hm ⊢; linarith) (two_zpow_pos e)
    have hexponent := lt_of_two_zpow_lt ((two_zpow_log2_le hn hx hxr).trans_lt hlarge)
    omega

/-- It is cut off where the double is, unless it is just below a power of two. -/
lemma le_targetExponent (h : Fits m e) (hr : RoundsTo m e r)
    (hx : StandsFor (.ofMantissaAndAccuracy n a) x) (hxr : x * 2 ^ f = r) :
    e ≤ Format.binary64.targetExponent (totalExponent n f) ∨
      (Format.binary64.targetExponent (totalExponent n f) = e - 1 ∧ m = 2 ^ 52 ∧ -1074 < e ∧
        r < 2 ^ 52 * 2 ^ e) := by
  have hlow := h.low
  have hlt := lt_two_zpow_log2 hx hxr
  rw [targetExponent_eq, totalExponent]
  by_cases he : e = -1074
  · omega
  by_cases hsmall : (2 : ℚ) ^ (52 + e) ≤ r
  · have hexponent := lt_of_two_zpow_lt (hsmall.trans_lt hlt)
    omega
  · -- Below `2 ^ 52` units there are only the numbers of `m = 2 ^ 52` that lie below it.
    rw [not_le, two_zpow_add] at hsmall
    have hbelow : (m : ℚ) - reachBelow m e < 2 ^ 52 :=
      lt_of_mul_lt_mul_right (hr.low.trans_lt hsmall) (two_zpow_pos e).le
    have hm : m = 2 ^ 52 := by
      have hm : (m : ℚ) < 2 ^ 52 + 1 := by linarith [reachBelow_le m e]
      have hnormal := h.normal.resolve_right he
      norm_cast at hm
      omega
    have hreach : (2 : ℚ) ^ (51 + e) ≤ r := by
      refine le_trans ?_ hr.low
      rw [two_zpow_add]
      refine mul_le_mul_of_nonneg_right ?_ (two_zpow_pos e).le
      have hm' : (m : ℚ) = 2 ^ 52 := by exact_mod_cast hm
      have hreach := reachBelow_le m e
      rw [hm']
      norm_num at hreach ⊢
      linarith
    have hexponent := lt_of_two_zpow_lt (hreach.trans_lt hlt)
    by_cases htarget : e ≤ max ((n.log2 : ℤ) + 1 + f - 53) (-1074)
    · exact .inl htarget
    · exact .inr ⟨by omega, hm, by omega, hsmall⟩

/-- The number over the exponent where it is cut off. -/
lemma div_two_pow_mul (hxr : x * 2 ^ f = r) {t : ℤ} (ht : f ≤ t) :
    x / 2 ^ (t - f).toNat * 2 ^ t = r := by
  have hpow : (2 : ℚ) ^ t = 2 ^ (t - f).toNat * 2 ^ f := by
    rw [← zpow_natCast, ← two_zpow_add]
    congr 1
    omega
  have hpos : (2 : ℚ) ^ (t - f).toNat ≠ 0 := by positivity
  rw [hpow, ← mul_assoc, div_mul_cancel₀ x hpos, hxr]

/-- Over its own exponent a number nearest to a double is nearest to the significand. -/
lemma RoundsTo.roundedMantissa_eq {em : ExtendedMantissa} {y : ℚ} (hr : RoundsTo m e r)
    (hy : StandsFor em y) (hyr : y * 2 ^ e = r) : em.roundedMantissa = m := by
  have hpos := two_zpow_pos e
  have hreach := reachBelow_le m e
  have hlow : (m : ℚ) - reachBelow m e ≤ y :=
    le_of_mul_le_mul_right (hyr ▸ hr.low) hpos
  have hhigh : y ≤ (m : ℚ) + 1 / 2 :=
    le_of_mul_le_mul_right (hyr ▸ hr.high) hpos
  refine hy.roundedMantissa_eq (by linarith) hhigh ?_
  rintro (hy | hy)
  · have hexact : y = m - reachBelow m e := le_antisymm (by linarith) hlow
    exact hr.even (.inl (by rw [← hyr, hexact]))
  · exact hr.even (.inr (by rw [← hyr, hy]))

/-- Just below a power of two, and cut off one place later, a number is rounded up to it. -/
lemma RoundsTo.roundedMantissa_eq_two_pow {em : ExtendedMantissa} {y : ℚ}
    (hr : RoundsTo (2 ^ 52) e r) (he : -1074 < e) (hsmall : r < 2 ^ 52 * 2 ^ e)
    (hy : StandsFor em y) (hyr : y * 2 ^ (e - 1) = r) : em.roundedMantissa = 2 ^ 53 := by
  have hpos := two_zpow_pos (e - 1)
  have hdouble : (2 : ℚ) ^ e = 2 * 2 ^ (e - 1) := by
    rw [← zpow_one_add₀ two_ne_zero]
    congr 1
    omega
  have hreach : reachBelow (2 ^ 52) e = 1 / 4 := if_pos ⟨rfl, he⟩
  have hlow : 2 ^ 53 - 1 / 2 ≤ y := by
    have hlow := hr.low
    rw [hreach, hdouble, ← hyr] at hlow
    refine le_of_mul_le_mul_right ?_ hpos
    push_cast at hlow
    linarith
  have hhigh : y < 2 ^ 53 := by
    rw [hdouble, ← hyr] at hsmall
    refine lt_of_mul_lt_mul_right ?_ hpos.le
    linarith
  refine hy.roundedMantissa_eq (by push_cast; linarith) (by push_cast; linarith) fun _ => ?_
  decide

end

/-- Rounding gives the nearest double. -/
theorem roundWithAccuracy_eq {m : ℕ} {e : ℤ} (h : Fits m e) {r : ℚ} (hr : RoundsTo m e r)
    {n : ℕ} {f : ℤ} {a : Accuracy} {x : ℚ}
    (hx : StandsFor (.ofMantissaAndAccuracy n a) x) (hxr : x * 2 ^ f = r)
    (hf : f ≤ Format.binary64.targetExponent (totalExponent n f)) (s : Sign) :
    roundWithAccuracy .binary64 s n f a = .finite s m e h.pos := by
  have hle := targetExponent_le h hr hx hxr hf
  have hcut := le_targetExponent h hr hx hxr
  have hfirst := shiftToTargetExponent_eq a hf
  have hscaled := div_two_pow_mul hxr hf
  generalize Format.binary64.targetExponent (totalExponent n f) = t at *
  have hstands := hx.shiftRight (t - f).toNat
  generalize ExtendedMantissa.ofMantissaAndAccuracy n a >>> (t - f).toNat = em at *
  rw [roundWithAccuracy, hfirst]
  rcases hcut with hge | ⟨rfl, rfl, he, hsmall⟩
  · obtain rfl : t = e := le_antisymm hle hge
    have hround := hr.roundedMantissa_eq hstands hscaled
    simp only [hround, shiftToTargetExponent_of_lt h.lt h.low, Nat.ne_of_gt h.pos, dite_false]
  · have hround := hr.roundedMantissa_eq_two_pow he hsmall hstands hscaled
    have hsecond := shiftToTargetExponent_two_pow (show -1074 ≤ e - 1 by omega)
    rw [sub_add_cancel] at hsecond
    simp only [hround, hsecond]
    rfl

end Atelier
