/-
The order of doubles, and what rounding does to it.

Finite doubles compare as the numbers that they stand for (`le_iff`, `lt_iff`, `beq_iff`).  A
number is rounded to a double next to it: no double lies strictly between the two (`NextTo`,
`nextTo_roundWithAccuracy`).  A number may overflow to an infinity; for the comparison with a
finite double that makes no difference.
-/
import Atelier.Proofs.Decimal.Rounding

namespace Atelier

open Float.Model
open Float.Model.UnpackedFloat (Sign Accuracy ExtendedMantissa decreaseExponent normalize
  roundWithAccuracy)

/-! ## The numbers that doubles stand for -/

/-- What rounding leaves, however large: zero, or a significand that fits. -/
inductive Rounded : UnpackedFloat → Prop
  | zero (s : Sign) : Rounded (.zero s)
  | finite (s : Sign) {m : ℕ} {e : ℤ} (h : Fits m e) : Rounded (.finite s m e h.pos)

/-- The number that an unpacked double stands for.  The infinities and NaN stand for none; they
give zero. -/
def value : UnpackedFloat → ℚ
  | .finite s m e _ => s.apply m * 2 ^ e
  | _ => 0

/-- The number that a double stands for. -/
def exact (x : Float) : ℚ :=
  value x.toModel.unpack

lemma rounded_unpack {x : Float} (hx : x.isFinite = true) : Rounded x.toModel.unpack := by
  change x.toModel.unpack.isFinite = true at hx
  cases hunpack : x.toModel.unpack with
  | infinity s =>
    rw [hunpack] at hx
    cases hx
  | notANumber =>
    rw [hunpack] at hx
    cases hx
  | zero s => exact .zero s
  | finite s m e hm => exact .finite s (canonical_of_unpack hunpack).toFits

lemma Rounded.neg {u : UnpackedFloat} (hu : Rounded u) : Rounded u.neg := by
  cases hu with
  | zero s => exact .zero (-s)
  | finite s h => exact .finite (-s) h

lemma value_positive {m : ℕ} {e : ℤ} (hm : 0 < m) :
    value (.finite .positive m e hm) = m * 2 ^ e := by
  rw [value, Sign.apply, Int.cast_natCast]

lemma value_negative {m : ℕ} {e : ℤ} (hm : 0 < m) :
    value (.finite .negative m e hm) = -(m * 2 ^ e) := by
  rw [value, Sign.apply, Int.cast_neg, Int.cast_natCast, neg_mul]

lemma value_neg (u : UnpackedFloat) : value u.neg = -value u := by
  cases u with
  | finite s m e hm =>
    cases s with
    | negative =>
      rw [value_negative, neg_neg]
      exact value_positive hm
    | positive =>
      rw [value_positive]
      exact value_negative hm
  | _ => simp [UnpackedFloat.neg, value]

lemma compare_neg_neg (a b : ℚ) : compare (-a) (-b) = (compare a b).swap := by
  rcases lt_trichotomy a b with hlt | rfl | hlt
  · rw [compare_lt_iff_lt.2 hlt, compare_gt_iff_gt.2 (neg_lt_neg hlt)]
    rfl
  · rw [compare_eq_iff_eq.2 rfl, compare_eq_iff_eq.2 rfl]
    rfl
  · rw [compare_gt_iff_gt.2 hlt, compare_lt_iff_lt.2 (neg_lt_neg hlt)]
    rfl

namespace Fits

variable {m m' : ℕ} {e e' : ℤ}

lemma number_pos (h : Fits m e) : (0 : ℚ) < m * 2 ^ e :=
  mul_pos (by exact_mod_cast h.pos) (two_zpow_pos e)

/-- With a larger exponent there are 53 bits. -/
lemma two_pow_le_of_exponent_lt (h : Fits m e) (h' : Fits m' e') (he : e < e') : 2 ^ 52 ≤ m' := by
  have hlow := h.low
  exact h'.normal.resolve_right (by omega)

/-- What has the larger exponent is larger than all that fits over a smaller one. -/
lemma lt_two_pow_mul (h : Fits m e) (he : e < e') : (m : ℚ) * 2 ^ e < 2 ^ 52 * 2 ^ e' := by
  have hm : (m : ℚ) < 2 ^ 53 := by exact_mod_cast h.lt
  have hexponent : (2 : ℚ) ^ (1 + e) ≤ 2 ^ e' := zpow_le_zpow_right₀ one_le_two (by omega)
  rw [two_zpow_add, zpow_one] at hexponent
  calc (m : ℚ) * 2 ^ e < 2 ^ 53 * 2 ^ e := mul_lt_mul_of_pos_right hm (two_zpow_pos e)
    _ = 2 ^ 52 * (2 * 2 ^ e) := by ring
    _ ≤ 2 ^ 52 * 2 ^ e' := mul_le_mul_of_nonneg_left hexponent (by positivity)

lemma lt_of_exponent_lt (h : Fits m e) (h' : Fits m' e') (he : e < e') :
    (m : ℚ) * 2 ^ e < m' * 2 ^ e' := by
  have hm' : (2 : ℚ) ^ 52 ≤ m' := by exact_mod_cast h.two_pow_le_of_exponent_lt h' he
  exact (h.lt_two_pow_mul he).trans_le (mul_le_mul_of_nonneg_right hm' (two_zpow_pos e').le)

/-- The exponents are compared first, and then the significands. -/
lemma compare_eq (h : Fits m e) (h' : Fits m' e') :
    (compare e e').then (compare m m') = compare ((m : ℚ) * 2 ^ e) (m' * 2 ^ e') := by
  rcases lt_trichotomy e e' with he | rfl | he
  · rw [Int.compare_eq_lt.2 he, compare_lt_iff_lt.2 (h.lt_of_exponent_lt h' he)]
    rfl
  · have hpos := two_zpow_pos e
    rw [Int.compare_eq_eq.2 rfl, Ordering.eq_then]
    rcases lt_trichotomy m m' with hm | rfl | hm
    · have hlt : (m : ℚ) * 2 ^ e < m' * 2 ^ e :=
        mul_lt_mul_of_pos_right (by exact_mod_cast hm) hpos
      rw [Nat.compare_eq_lt.2 hm, compare_lt_iff_lt.2 hlt]
    · rw [Nat.compare_eq_eq.2 rfl, compare_eq_iff_eq.2 rfl]
    · have hlt : (m' : ℚ) * 2 ^ e < m * 2 ^ e :=
        mul_lt_mul_of_pos_right (by exact_mod_cast hm) hpos
      rw [Nat.compare_eq_gt.2 hm, compare_gt_iff_gt.2 hlt]
  · rw [Int.compare_eq_gt.2 he, compare_gt_iff_gt.2 (h'.lt_of_exponent_lt h he)]
    rfl

end Fits

/-- Rounded numbers compare as what they stand for. -/
lemma Rounded.compare_eq {u v : UnpackedFloat} (hu : Rounded u) (hv : Rounded v) :
    u.compare v = some (compare (value u) (value v)) := by
  cases hu with
  | zero s =>
    cases hv with
    | zero s' => rfl
    | finite s' h' =>
      have hpos := h'.number_pos
      cases s' with
      | negative =>
        rw [value_negative, compare_gt_iff_gt.2 (show value (.zero s) > _ from neg_lt_zero.2 hpos)]
        rfl
      | positive =>
        rw [value_positive, compare_lt_iff_lt.2 (show value (.zero s) < _ from hpos)]
        rfl
  | finite s h =>
    have hpos := h.number_pos
    cases hv with
    | zero s' =>
      cases s with
      | negative =>
        rw [value_negative, compare_lt_iff_lt.2 (show _ < value (.zero s') from neg_lt_zero.2 hpos)]
        rfl
      | positive =>
        rw [value_positive, compare_gt_iff_gt.2 (show _ > value (.zero s') from hpos)]
        rfl
    | finite s' h' =>
      have hpos' := h'.number_pos
      cases s with
      | negative =>
        cases s' with
        | negative =>
          rw [value_negative, value_negative, UnpackedFloat.compare, h.compare_eq h',
            compare_neg_neg]
        | positive =>
          rw [value_negative, value_positive, compare_lt_iff_lt.2 (by linarith)]
          rfl
      | positive =>
        cases s' with
        | negative =>
          rw [value_negative, value_positive, compare_gt_iff_gt.2 (by linarith)]
          rfl
        | positive => rw [value_positive, value_positive, UnpackedFloat.compare, h.compare_eq h']

/-! ## Comparisons -/

section

variable {x y : Float} {o : Ordering}

/-- Doubles are compared unpacked. -/
lemma le_iff_any : x ≤ y ↔ (x.toModel.unpack.compare y.toModel.unpack).any (·.isLE) = true := by
  show decide (x.toModel ≤ y.toModel) = true ↔ _
  rw [decide_eq_true_iff]
  rfl

lemma lt_iff_eq_lt : x < y ↔ x.toModel.unpack.compare y.toModel.unpack = some .lt := by
  show decide (x.toModel < y.toModel) = true ↔ _
  rw [decide_eq_true_iff]
  exact beq_iff_eq

lemma beq_iff_eq_eq : (x == y) = true ↔ x.toModel.unpack.compare y.toModel.unpack = some .eq := by
  show (x.toModel.unpack.compare y.toModel.unpack == some .eq) = true ↔ _
  exact beq_iff_eq

lemma le_iff_isLE (h : x.toModel.unpack.compare y.toModel.unpack = some o) :
    x ≤ y ↔ o.isLE = true := by
  rw [le_iff_any, h, Option.any_some]

lemma isLE_compare {a b : ℚ} : (compare a b).isLE = true ↔ a ≤ b := by
  rcases lt_trichotomy a b with hlt | rfl | hlt
  · simp [compare_lt_iff_lt.2 hlt, hlt.le]
  · simp
  · simp [compare_gt_iff_gt.2 hlt, hlt]

/-- Finite doubles are ordered as what they stand for. -/
lemma le_iff (hx : x.isFinite = true) (hy : y.isFinite = true) : x ≤ y ↔ exact x ≤ exact y := by
  rw [le_iff_isLE ((rounded_unpack hx).compare_eq (rounded_unpack hy)), isLE_compare]
  rfl

lemma lt_iff (hx : x.isFinite = true) (hy : y.isFinite = true) : x < y ↔ exact x < exact y := by
  rw [lt_iff_eq_lt, (rounded_unpack hx).compare_eq (rounded_unpack hy), Option.some_inj,
    compare_lt_iff_lt]
  rfl

lemma beq_iff (hx : x.isFinite = true) (hy : y.isFinite = true) :
    (x == y) = true ↔ exact x = exact y := by
  rw [beq_iff_eq_eq, (rounded_unpack hx).compare_eq (rounded_unpack hy), Option.some_inj,
    compare_eq_iff_eq]
  rfl

lemma isFinite_zero : (0 : Float).isFinite = true := rfl

lemma exact_zero : exact 0 = 0 := by
  have hunpack : (0 : Float).toModel.unpack = .zero .positive := rfl
  rw [exact, hunpack]
  rfl

/-- Doubles of which neither is less compare as equal, unless one is NaN. -/
lemma beq_of_le_of_not_lt (hle : x ≤ y) (hlt : ¬ x < y) : (x == y) = true := by
  rw [le_iff_any] at hle
  rw [lt_iff_eq_lt] at hlt
  rw [beq_iff_eq_eq]
  cases hcompare : x.toModel.unpack.compare y.toModel.unpack with
  | none =>
    rw [hcompare] at hle
    cases hle
  | some o =>
    rw [hcompare] at hle hlt
    cases o with
    | lt => exact absurd rfl hlt
    | eq => rfl
    | gt => cases hle

end

/-! ## Rounding -/

/-- A rounded number is next to a number if no other lies between the two. -/
structure NextTo (u : UnpackedFloat) (r : ℚ) : Prop where
  rounded : Rounded u
  le : ∀ {c : UnpackedFloat}, Rounded c → value c ≤ r → value c ≤ value u
  ge : ∀ {c : UnpackedFloat}, Rounded c → r ≤ value c → value u ≤ value c

namespace NextTo

variable {u : UnpackedFloat} {r : ℚ}

/-- A rounded number is next to what it stands for. -/
lemma of_rounded (hu : Rounded u) : NextTo u (value u) :=
  ⟨hu, fun _ h => h, fun _ h => h⟩

lemma neg (h : NextTo u r) : NextTo u.neg (-r) := by
  refine ⟨h.rounded.neg, fun {c} hc hle => ?_, fun {c} hc hge => ?_⟩
  · have hneg := h.ge hc.neg (by rw [value_neg]; linarith)
    rw [value_neg] at hneg ⊢
    linarith
  · have hneg := h.le hc.neg (by rw [value_neg]; linarith)
    rw [value_neg] at hneg ⊢
    linarith

/-- For a positive number the positive ones decide. -/
lemma of_pos (hu : Rounded u) (hr : 0 < r) (hnonneg : 0 ≤ value u)
    (hle : ∀ {m e}, Fits m e → m * 2 ^ e ≤ r → m * 2 ^ e ≤ value u)
    (hge : ∀ {m e}, Fits m e → r ≤ m * 2 ^ e → value u ≤ m * 2 ^ e) : NextTo u r := by
  refine ⟨hu, fun hc h => ?_, fun hc h => ?_⟩
  · cases hc with
    | zero s => exact hnonneg
    | finite s hfits =>
      cases s with
      | negative =>
        rw [value_negative]
        have hpos := hfits.number_pos
        linarith
      | positive =>
        rw [value_positive] at h ⊢
        exact hle hfits h
  · cases hc with
    | zero s => exact absurd h (not_le.2 hr)
    | finite s hfits =>
      cases s with
      | negative =>
        rw [value_negative] at h
        have hpos := hfits.number_pos
        linarith
      | positive =>
        rw [value_positive] at h ⊢
        exact hge hfits h

end NextTo

/-- Rounding to a whole number does not pass a whole number. -/
lemma StandsFor.le_roundedMantissa {em : ExtendedMantissa} {x : ℚ} (h : StandsFor em x) {c : ℕ}
    (hc : c ≤ x) : c ≤ em.roundedMantissa := by
  have hlt := h.mantissa_le_and_lt.2
  have hle : c ≤ em.mantissa := by
    have hlt' : (c : ℚ) < em.mantissa + 1 := hc.trans_lt hlt
    norm_cast at hlt'
    omega
  obtain ⟨n, round, sticky⟩ := em
  refine hle.trans ?_
  cases round <;> cases sticky
  · exact le_refl n
  · exact le_refl n
  · exact Nat.le_add_right n (n % 2)
  · exact Nat.le_succ n

lemma StandsFor.roundedMantissa_le {em : ExtendedMantissa} {x : ℚ} (h : StandsFor em x) {c : ℕ}
    (hc : x ≤ c) : em.roundedMantissa ≤ c := by
  obtain ⟨rest, hx, hnonneg, -, hsticky⟩ := h
  obtain ⟨n, roundBit, sticky⟩ := em
  replace hsticky : sticky = false ↔ rest = 0 := hsticky
  have hround := half_nonneg roundBit
  -- What is rounded up has something behind the significand.
  have hup (hrest : 0 < half roundBit + rest) : n + 1 ≤ c := by
    have hlt : (n : ℚ) < c := by linarith
    exact_mod_cast hlt
  cases roundBit with
  | true =>
    have hlt : n + 1 ≤ c := hup (by norm_num [half]; linarith)
    cases sticky with
    | true => exact hlt
    | false =>
      show n + n % 2 ≤ c
      omega
  | false =>
    have hle : (n : ℚ) ≤ c := by linarith
    cases sticky <;> exact_mod_cast hle

section

variable {n : ℕ} {f t : ℤ} {a : Accuracy} {x r : ℚ}

/-- The rounded significand over the exponent where the number was cut off is the result, if it
does not have to be carried. -/
lemma value_roundWithAccuracy {em : ExtendedMantissa}
    (hfirst : UnpackedFloat.shiftToTargetExponent .binary64 n f a = (em, t))
    (hle : em.roundedMantissa ≤ 2 ^ 53) (hlow : -1074 ≤ t)
    (hnormal : 2 ^ 52 ≤ em.roundedMantissa ∨ t = -1074) :
    Rounded (roundWithAccuracy .binary64 .positive n f a) ∧
      value (roundWithAccuracy .binary64 .positive n f a) = em.roundedMantissa * 2 ^ t := by
  generalize hk : em.roundedMantissa = k at *
  rw [roundWithAccuracy, hfirst]
  rcases Nat.eq_zero_or_pos k with rfl | hpos
  · simp only [hk, shiftToTargetExponent_of_lt (Nat.two_pow_pos 53) hlow, dite_true]
    exact ⟨.zero _, by simp [value]⟩
  rcases Nat.eq_or_lt_of_le hle with rfl | hlt
  · -- A carry: one place less over the next exponent.
    have hdouble : (2 : ℚ) ^ (t + 1) = 2 ^ t * 2 := by rw [two_zpow_add, zpow_one]
    have hfits : Fits (2 ^ 52) (t + 1) := ⟨by norm_num, by norm_num, by omega, .inl le_rfl⟩
    simp only [hk, shiftToTargetExponent_two_pow hlow]
    refine ⟨.finite .positive hfits, ?_⟩
    rw [dif_neg (by norm_num), value_positive, hdouble]
    push_cast
    ring
  · simp only [hk, shiftToTargetExponent_of_lt hlt hlow, hpos.ne', dite_false]
    exact ⟨.finite .positive ⟨hpos, hlt, hlow, hnormal⟩, value_positive hpos⟩

/-- A number that is cut off over more than the least exponent has 53 bits there. -/
lemma two_pow_mul_le_of_targetExponent (hx : StandsFor (.ofMantissaAndAccuracy n a) x)
    (hxr : x * 2 ^ f = r) (hf : f ≤ Format.binary64.targetExponent (totalExponent n f)) :
    Format.binary64.targetExponent (totalExponent n f) = -1074 ∨
      2 ^ 52 * 2 ^ Format.binary64.targetExponent (totalExponent n f) ≤ r := by
  rw [targetExponent_eq, totalExponent] at *
  rcases Nat.eq_zero_or_pos n with rfl | hn
  · rw [Nat.log2_zero] at *
    omega
  · have hlow := two_zpow_log2_le hn.ne' hx hxr
    rcases le_or_gt ((n.log2 : ℤ) + 1 + f - 53) (-1074) with hleast | hlarge
    · exact .inl (max_eq_right hleast)
    · refine .inr ?_
      rw [max_eq_left hlarge.le, ← zpow_natCast, ← two_zpow_add]
      refine le_trans (zpow_le_zpow_right₀ one_le_two ?_) hlow
      omega

/-- A double is a whole number of units of the last place, unless its exponent is smaller than
that of the unit.  Then it is smaller than all that has 53 bits. -/
lemma Fits.exists_eq_or_lt {m : ℕ} {e : ℤ} (h : Fits m e) (t : ℤ) :
    (∃ c : ℕ, (m : ℚ) * 2 ^ e = c * 2 ^ t) ∨ (-1074 < t ∧ (m : ℚ) * 2 ^ e < 2 ^ 52 * 2 ^ t) := by
  have hlow := h.low
  rcases le_or_gt t e with hte | hte
  · refine .inl ⟨m <<< (e - t).toNat, ?_⟩
    have hshift := shiftLeft_mul_two_zpow m (e - t).toNat e
    rw [show e - (e - t).toNat = t by omega] at hshift
    exact hshift.symm
  · exact .inr ⟨by omega, h.lt_two_pow_mul hte⟩

/-- Rounding the units of the last place to a whole number gives a double next to the number. -/
lemma nextTo_of_roundedMantissa {u : UnpackedFloat} {em : ExtendedMantissa} {y : ℚ}
    (hy : StandsFor em y) (hpos : 0 < y) (hnormal : t = -1074 ∨ 2 ^ 52 ≤ y) (hu : Rounded u)
    (hvalue : value u = em.roundedMantissa * 2 ^ t) : NextTo u (y * 2 ^ t) := by
  have hunit := two_zpow_pos t
  have hnormal' (ht : -1074 < t) : 2 ^ 52 ≤ y := hnormal.resolve_left (by omega)
  refine .of_pos hu (mul_pos hpos hunit) (by rw [hvalue]; positivity) (fun {m e} h hle => ?_)
    fun {m e} h hge => ?_
  · rw [hvalue]
    rcases h.exists_eq_or_lt t with ⟨c, hc⟩ | ⟨ht, hlt⟩
    · rw [hc] at hle ⊢
      have hle' : c ≤ em.roundedMantissa :=
        hy.le_roundedMantissa (le_of_mul_le_mul_right hle hunit)
      exact mul_le_mul_of_nonneg_right (by exact_mod_cast hle') hunit.le
    · have hmany : 2 ^ 52 ≤ em.roundedMantissa :=
        hy.le_roundedMantissa (by exact_mod_cast hnormal' ht)
      exact hlt.le.trans (mul_le_mul_of_nonneg_right (by exact_mod_cast hmany) hunit.le)
  · rw [hvalue]
    rcases h.exists_eq_or_lt t with ⟨c, hc⟩ | ⟨ht, hlt⟩
    · rw [hc] at hge ⊢
      have hge' : em.roundedMantissa ≤ c :=
        hy.roundedMantissa_le (le_of_mul_le_mul_right hge hunit)
      exact mul_le_mul_of_nonneg_right (by exact_mod_cast hge') hunit.le
    · have hmany : 2 ^ 52 * 2 ^ t ≤ y * 2 ^ t := mul_le_mul_of_nonneg_right (hnormal' ht) hunit.le
      exact absurd (hmany.trans hge) (not_le.2 hlt)

/-- A positive number is rounded to one next to it. -/
lemma nextTo_roundWithAccuracy (hx : StandsFor (.ofMantissaAndAccuracy n a) x)
    (hxr : x * 2 ^ f = r) (hr : 0 < r)
    (hf : f ≤ Format.binary64.targetExponent (totalExponent n f)) :
    NextTo (roundWithAccuracy .binary64 .positive n f a) r := by
  have hfirst := shiftToTargetExponent_eq a hf
  have hscaled := div_two_pow_mul hxr hf
  have hbelow := lt_two_zpow_log2 hx hxr
  have hbits := two_pow_mul_le_of_targetExponent hx hxr hf
  rw [targetExponent_eq, totalExponent] at *
  have hlow : -1074 ≤ max ((n.log2 : ℤ) + 1 + f - 53) (-1074) := le_max_right _ _
  have hhigh : (n.log2 : ℤ) + 1 + f - 53 ≤ max ((n.log2 : ℤ) + 1 + f - 53) (-1074) :=
    le_max_left _ _
  generalize max ((n.log2 : ℤ) + 1 + f - 53) (-1074) = t at *
  have hstands := hx.shiftRight (t - f).toNat
  generalize ExtendedMantissa.ofMantissaAndAccuracy n a >>> (t - f).toNat = em at *
  generalize x / 2 ^ (t - f).toNat = y at *
  have hunit := two_zpow_pos t
  have hpos : 0 < y := pos_of_mul_pos_left (hscaled ▸ hr) hunit.le
  have hnormal : t = -1074 ∨ 2 ^ 52 ≤ y :=
    hbits.imp_right fun h => le_of_mul_le_mul_right (hscaled ▸ h) hunit
  have hnormal' : 2 ^ 52 ≤ em.roundedMantissa ∨ t = -1074 :=
    hnormal.symm.imp_left fun h => hstands.le_roundedMantissa (by exact_mod_cast h)
  have hcarry : em.roundedMantissa ≤ 2 ^ 53 := by
    refine hstands.roundedMantissa_le (le_of_mul_le_mul_right ?_ hunit)
    have hpow : (2 : ℚ) ^ ((n.log2 : ℤ) + 1 + f) ≤ 2 ^ (53 + t) :=
      zpow_le_zpow_right₀ one_le_two (by omega)
    rw [two_zpow_add 53 t] at hpow
    rw [hscaled]
    exact_mod_cast hbelow.le.trans hpow
  obtain ⟨hrounded, hvalue⟩ := value_roundWithAccuracy hfirst hcarry hlow hnormal'
  rw [← hscaled]
  exact nextTo_of_roundedMantissa hstands hpos hnormal hrounded hvalue

end

end Atelier
