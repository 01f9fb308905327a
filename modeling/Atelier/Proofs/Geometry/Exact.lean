/-
Geometry in exact arithmetic.

Over the real numbers each definition of plane geometry is the textbook one: the smaller of two
numbers is their minimum, a box is given by its edges, a rotation keeps distances and
orientation and is undone by the opposite one, and a wrapped angle lies within one turn.
-/
import Mathlib.Analysis.SpecialFunctions.Complex.Arg
import Atelier.Geometry.Box

namespace Atelier

/-- The real numbers. -/
noncomputable instance : Scalar ℝ where
  toBEq := ⟨fun x y => decide (x = y)⟩
  decideLT := Real.decidableLT
  decideLE := Real.decidableLE
  ofNat n := n
  abs x := |x|
  sin := Real.sin
  cos := Real.cos
  atan2 y x := Complex.arg ⟨x, y⟩
  hypot x y := √(x ^ 2 + y ^ 2)
  turn := 2 * Real.pi
  remainder x y := x - |y| * ⌊x / |y|⌋

namespace Scalar

@[simp] lemma beq_real (x y : ℝ) : (x == y) = decide (x = y) := rfl

@[simp] lemma ofNat_real (n : ℕ) : (ofNat n : ℝ) = n := rfl

@[simp] lemma zero_real : (zero : ℝ) = 0 := Nat.cast_zero

@[simp] lemma one_real : (one : ℝ) = 1 := Nat.cast_one

@[simp] lemma half_real (x : ℝ) : half x = x / 2 := rfl

@[simp] lemma abs_real (x : ℝ) : Scalar.abs x = |x| := rfl

@[simp] lemma turn_real : (turn : ℝ) = 2 * Real.pi := rfl

@[simp] lemma least_real (x y : ℝ) : least x y = min x y := by
  rcases lt_or_ge x y with h | h
  · rw [least, if_pos h, min_eq_left h.le]
  · rw [least, if_neg h.not_gt, if_pos (by simp), min_eq_right h]

@[simp] lemma greatest_real (x y : ℝ) : greatest x y = max x y := by
  rcases lt_or_ge y x with h | h
  · rw [greatest, if_pos h, max_eq_left h.le]
  · rw [greatest, if_neg h.not_gt, if_pos (by simp), max_eq_right h]

lemma clampUnit_mem_Icc (x : ℝ) : clampUnit x ∈ Set.Icc (0 : ℝ) 1 := by
  rw [clampUnit, zero_real, one_real]
  split
  · simp
  · split
    · simp
    · exact ⟨not_lt.1 ‹_›, not_lt.1 ‹_›⟩

/-- From the number of the unit interval nearest to `x`, every other one lies away from `x`. -/
lemma clampUnit_sub_mul_nonneg (x : ℝ) {t : ℝ} (ht : t ∈ Set.Icc (0 : ℝ) 1) :
    0 ≤ (t - clampUnit x) * (clampUnit x - x) := by
  rw [clampUnit, zero_real, one_real]
  split
  · rename_i hx
    exact mul_nonneg (by linarith [ht.1]) (by linarith)
  · split
    · rename_i hx
      exact mul_nonneg_of_nonpos_of_nonpos (by linarith [ht.2]) (by linarith)
    · simp

end Scalar

/-! ## Angles -/

/-- A wrapped angle is the part of a turn by which the angle exceeds whole turns. -/
lemma wrapAngle_eq (θ : ℝ) : wrapAngle θ = 2 * Real.pi * Int.fract (θ / (2 * Real.pi)) := by
  have hremainder :
      Scalar.remainder θ Scalar.turn = 2 * Real.pi * Int.fract (θ / (2 * Real.pi)) := by
    show θ - |2 * Real.pi| * ⌊θ / |2 * Real.pi|⌋ = _
    rw [abs_of_pos Real.two_pi_pos, Int.fract, mul_sub, mul_div_cancel₀ _ Real.two_pi_pos.ne']
  have hlt : 2 * Real.pi * Int.fract (θ / (2 * Real.pi)) < 2 * Real.pi :=
    mul_lt_of_lt_one_right Real.two_pi_pos (Int.fract_lt_one _)
  rw [wrapAngle, hremainder]
  exact if_neg hlt.not_ge

lemma wrapAngle_mem_Ico (θ : ℝ) : wrapAngle θ ∈ Set.Ico 0 (2 * Real.pi) := by
  rw [wrapAngle_eq]
  exact ⟨mul_nonneg Real.two_pi_pos.le (Int.fract_nonneg _),
    mul_lt_of_lt_one_right Real.two_pi_pos (Int.fract_lt_one _)⟩

/-- An angle within one turn is left as it is. -/
lemma wrapAngle_of_mem_Ico {θ : ℝ} (h : θ ∈ Set.Ico 0 (2 * Real.pi)) : wrapAngle θ = θ := by
  have hpart : θ / (2 * Real.pi) ∈ Set.Ico (0 : ℝ) 1 :=
    ⟨div_nonneg h.1 Real.two_pi_pos.le, (div_lt_one Real.two_pi_pos).2 h.2⟩
  rw [wrapAngle_eq, Int.fract_eq_self.2 hpart, mul_div_cancel₀ _ Real.two_pi_pos.ne']

attribute [ext] Point

namespace Point

variable (p q a b c : Point ℝ) (θ : ℝ)

/-! ## Rotations -/

lemma rotate_x : (p.rotate c θ).x =
    c.x + (p.x - c.x) * Real.cos θ - (p.y - c.y) * Real.sin θ := rfl

lemma rotate_y : (p.rotate c θ).y =
    c.y + (p.x - c.x) * Real.sin θ + (p.y - c.y) * Real.cos θ := rfl

@[simp] lemma rotate_zero : p.rotate c 0 = p := by
  ext
  · simp [rotate_x]
  · simp [rotate_y]

@[simp] lemma rotate_self : c.rotate c θ = c := by
  ext
  · simp [rotate_x]
  · simp [rotate_y]

/-- Two rotations about one center add up. -/
lemma rotate_rotate (φ : ℝ) : (p.rotate c θ).rotate c φ = p.rotate c (θ + φ) := by
  ext
  · simp only [rotate_x, rotate_y, Real.cos_add, Real.sin_add]
    ring
  · simp only [rotate_x, rotate_y, Real.cos_add, Real.sin_add]
    ring

/-- A rotation is undone by the opposite one. -/
lemma rotate_eq_iff : p.rotate c θ = q ↔ p = q.rotate c (-θ) := by
  constructor
  · rintro rfl
    rw [rotate_rotate, add_neg_cancel, rotate_zero]
  · rintro rfl
    rw [rotate_rotate, neg_add_cancel, rotate_zero]

lemma distance_eq : p.distance q = √((p.x - q.x) ^ 2 + (p.y - q.y) ^ 2) := rfl

lemma distance_le_iff {r : ℝ} (hr : 0 ≤ r) :
    p.distance q ≤ r ↔ (p.x - q.x) ^ 2 + (p.y - q.y) ^ 2 ≤ r ^ 2 := by
  rw [distance_eq, Real.sqrt_le_left hr]

/-- A rotation keeps distances. -/
lemma sq_add_sq_rotate :
    ((p.rotate c θ).x - (q.rotate c θ).x) ^ 2 + ((p.rotate c θ).y - (q.rotate c θ).y) ^ 2 =
      (p.x - q.x) ^ 2 + (p.y - q.y) ^ 2 := by
  have hunit := Real.sin_sq_add_cos_sq θ
  simp only [rotate_x, rotate_y]
  linear_combination ((p.x - q.x) ^ 2 + (p.y - q.y) ^ 2) * hunit

/-- A rotation keeps the side of a line on which a point lies. -/
lemma sideOf_rotate :
    (p.rotate c θ).sideOf (a.rotate c θ) (b.rotate c θ) = p.sideOf a b := by
  have hunit := Real.sin_sq_add_cos_sq θ
  simp only [sideOf, rotate_x, rotate_y]
  linear_combination ((p.x - b.x) * (a.y - b.y) - (a.x - b.x) * (p.y - b.y)) * hunit

end Point

/-! ## Boxes -/

namespace Box

variable (b : Box ℝ) (p : Point ℝ)

lemma normalized_eq : b.normalized =
    ⟨min b.x (b.x + b.width), min b.y (b.y + b.height), |b.width|, |b.height|⟩ := by
  simp [normalized, between]

@[simp] lemma normalized_width : b.normalized.width = |b.width| := by
  rw [normalized_eq]

@[simp] lemma normalized_height : b.normalized.height = |b.height| := by
  rw [normalized_eq]

/-- A box whose size is not negative stays as it is. -/
lemma normalized_of_nonneg (hwidth : 0 ≤ b.width) (hheight : 0 ≤ b.height) :
    b.normalized = b := by
  rw [normalized_eq, abs_of_nonneg hwidth, abs_of_nonneg hheight,
    min_eq_left (le_add_of_nonneg_right hwidth), min_eq_left (le_add_of_nonneg_right hheight)]

@[simp] lemma normalized_normalized : b.normalized.normalized = b.normalized :=
  normalized_of_nonneg _ (by simp) (by simp)

lemma center_x : b.center.x = b.x + b.width / 2 := rfl

lemma center_y : b.center.y = b.y + b.height / 2 := rfl

lemma contains_iff : b.contains p = true ↔
    (b.x ≤ p.x ∧ p.x ≤ b.x + b.width) ∧ b.y ≤ p.y ∧ p.y ≤ b.y + b.height := by
  simp only [contains, Bool.and_eq_true, decide_eq_true_eq]
  exact and_assoc

end Box

end Atelier
