/-
Triangles and ellipses as regions.

The three sides of a triangle enclose the points that lie on the same side of all of them, and an
ellipse, turned about its center, encloses the points whose distance from the center, measured in
the radii, is at most one.
-/
import Mathlib.Analysis.SpecialFunctions.Trigonometric.Inverse
import Atelier.Proofs.Geometry.Region

namespace Atelier.Point

/-! ## Triangles -/

section Triangle

variable (a b c p q : Point ℝ)

/-- The points on the inner side of all three sides of a triangle. -/
def triangle : Set (Point ℝ) :=
  {p | 0 ≤ p.sideOf a b ∧ 0 ≤ p.sideOf b c ∧ 0 ≤ p.sideOf c a}

@[fun_prop] lemma continuous_sideOf : Continuous fun p : Point ℝ => p.sideOf a b := by
  show Continuous fun p : Point ℝ => (p.x - b.x) * (a.y - b.y) - (a.x - b.x) * (p.y - b.y)
  fun_prop

@[simp] lemma sideOf_left : a.sideOf a b = 0 := by
  simp only [sideOf]
  ring

@[simp] lemma sideOf_right : b.sideOf a b = 0 := by
  simp only [sideOf]
  ring

/-- The sides of a point add up to twice the area of the triangle. -/
lemma sideOf_add : p.sideOf a b + p.sideOf b c + p.sideOf c a = c.sideOf a b := by
  simp only [sideOf]
  ring

lemma sideOf_cycle : c.sideOf a b = a.sideOf b c := by
  simp only [sideOf]
  ring

lemma sideOf_along (t : ℝ) :
    (along p q t).sideOf a b = (1 - t) * p.sideOf a b + t * q.sideOf a b := by
  simp only [sideOf, along]
  ring

/-- The sides of a point are its weights on the corners. -/
lemma weighted_x : c.sideOf a b * p.x =
    p.sideOf b c * a.x + p.sideOf c a * b.x + p.sideOf a b * c.x := by
  simp only [sideOf]
  ring

lemma weighted_y : c.sideOf a b * p.y =
    p.sideOf b c * a.y + p.sideOf c a * b.y + p.sideOf a b * c.y := by
  simp only [sideOf]
  ring

variable {a b c p q}

lemma sideOf_of_mem_segment (h : p ∈ segment a b) : p.sideOf a b = 0 := by
  obtain ⟨t, -, rfl⟩ := h
  simp [sideOf_along]

/-- A point of a triangle on the line through a side lies on the side. -/
lemma mem_segment_of_sideOf (harea : 0 < c.sideOf a b) (hside : p.sideOf a b = 0)
    (hbc : 0 ≤ p.sideOf b c) (hca : 0 ≤ p.sideOf c a) : p ∈ segment a b := by
  have hsum := sideOf_add a b c p
  have hx := weighted_x a b c p
  have hy := weighted_y a b c p
  rw [hside, zero_add] at hsum
  rw [hside, zero_mul, add_zero] at hx hy
  -- The weight of `c` is zero, so that the other two weights divide the side at `p`.
  refine ⟨p.sideOf c a / c.sideOf a b, ⟨div_nonneg hca harea.le, ?_⟩, ?_⟩
  · rw [div_le_one harea]
    linarith
  · have hbc' : p.sideOf b c = c.sideOf a b - p.sideOf c a := by linarith
    rw [hbc'] at hx hy
    ext
    · show a.x + p.sideOf c a / c.sideOf a b * (b.x - a.x) = p.x
      field_simp
      linarith
    · show a.y + p.sideOf c a / c.sideOf a b * (b.y - a.y) = p.y
      field_simp
      linarith

lemma abs_le_of_weighted {u v w x y z s : ℝ} (hu : 0 ≤ u) (hv : 0 ≤ v) (hw : 0 ≤ w)
    (hpos : 0 < u + v + w) (h : (u + v + w) * s = u * x + v * y + w * z) :
    |s| ≤ |x| + |y| + |z| := by
  have hsum : (u + v + w) * |s| ≤ (u + v + w) * (|x| + |y| + |z|) := by
    calc (u + v + w) * |s| = |u * x + v * y + w * z| := by
          rw [← h, abs_mul, abs_of_pos hpos]
      _ ≤ |u * x| + |v * y| + |w * z| := abs_add_three _ _ _
      _ = u * |x| + v * |y| + w * |z| := by
          rw [abs_mul, abs_mul, abs_mul, abs_of_nonneg hu, abs_of_nonneg hv, abs_of_nonneg hw]
      _ ≤ (u + v + w) * (|x| + |y| + |z|) := by
          nlinarith [abs_nonneg x, abs_nonneg y, abs_nonneg z, mul_nonneg hu (abs_nonneg y),
            mul_nonneg hu (abs_nonneg z), mul_nonneg hv (abs_nonneg x),
            mul_nonneg hv (abs_nonneg z), mul_nonneg hw (abs_nonneg x),
            mul_nonneg hw (abs_nonneg y)]
  exact le_of_mul_le_mul_left hsum hpos

lemma limited_triangle (harea : 0 < c.sideOf a b) : Limited (triangle a b c) := by
  refine ⟨|a.x| + |b.x| + |c.x| + (|a.y| + |b.y| + |c.y|), fun p ⟨hab, hbc, hca⟩ => ?_⟩
  have hsum : p.sideOf b c + p.sideOf c a + p.sideOf a b = c.sideOf a b := by
    linarith [sideOf_add a b c p]
  have hx := abs_le_of_weighted hbc hca hab (hsum ▸ harea) (hsum ▸ weighted_x a b c p)
  have hy := abs_le_of_weighted hbc hca hab (hsum ▸ harea) (hsum ▸ weighted_y a b c p)
  have hx' : 0 ≤ |a.x| + |b.x| + |c.x| := by positivity
  have hy' : 0 ≤ |a.y| + |b.y| + |c.y| := by positivity
  exact ⟨by linarith, by linarith⟩

/-- The points of a triangle off its sides lie strictly inside. -/
lemma triangle_diff_sides (harea : 0 < c.sideOf a b) :
    triangle a b c \ (segment a b ∪ segment b c ∪ segment c a) =
      {p | 0 < p.sideOf a b ∧ 0 < p.sideOf b c ∧ 0 < p.sideOf c a} := by
  have harea' : 0 < a.sideOf b c := sideOf_cycle a b c ▸ harea
  have harea'' : 0 < b.sideOf c a := sideOf_cycle b c a ▸ harea'
  ext p
  constructor
  · rintro ⟨⟨hab, hbc, hca⟩, hoff⟩
    refine ⟨hab.lt_of_ne' fun h => ?_, hbc.lt_of_ne' fun h => ?_, hca.lt_of_ne' fun h => ?_⟩
    · exact hoff (.inl (.inl (mem_segment_of_sideOf harea h hbc hca)))
    · exact hoff (.inl (.inr (mem_segment_of_sideOf harea' h hca hab)))
    · exact hoff (.inr (mem_segment_of_sideOf harea'' h hab hbc))
  · rintro ⟨hab, hbc, hca⟩
    refine ⟨⟨hab.le, hbc.le, hca.le⟩, ?_⟩
    rintro ((h | h) | h)
    · exact hab.ne' (sideOf_of_mem_segment h)
    · exact hbc.ne' (sideOf_of_mem_segment h)
    · exact hca.ne' (sideOf_of_mem_segment h)

lemma isClosed_triangle : IsClosed (triangle a b c) :=
  (isClosed_le continuous_const (continuous_sideOf a b)).inter
    ((isClosed_le continuous_const (continuous_sideOf b c)).inter
      (isClosed_le continuous_const (continuous_sideOf c a)))

lemma isOpen_inner_triangle :
    IsOpen {p : Point ℝ | 0 < p.sideOf a b ∧ 0 < p.sideOf b c ∧ 0 < p.sideOf c a} :=
  (isOpen_lt continuous_const (continuous_sideOf a b)).inter
    ((isOpen_lt continuous_const (continuous_sideOf b c)).inter
      (isOpen_lt continuous_const (continuous_sideOf c a)))

lemma corners_mem_triangle (harea : 0 < c.sideOf a b) :
    a ∈ triangle a b c ∧ b ∈ triangle a b c ∧ c ∈ triangle a b c := by
  have harea' : 0 < a.sideOf b c := sideOf_cycle a b c ▸ harea
  have harea'' : 0 < b.sideOf c a := sideOf_cycle b c a ▸ harea'
  refine ⟨⟨?_, ?_, ?_⟩, ⟨?_, ?_, ?_⟩, ⟨?_, ?_, ?_⟩⟩ <;> simp [harea.le, harea'.le, harea''.le]

/-- A triangle is convex. -/
lemma segment_subset_triangle (hp : p ∈ triangle a b c) (hq : q ∈ triangle a b c) :
    segment p q ⊆ triangle a b c := by
  rintro - ⟨t, ⟨ht, ht'⟩, rfl⟩
  have hside : ∀ u v : ℝ, 0 ≤ u → 0 ≤ v → 0 ≤ (1 - t) * u + t * v := fun u v hu hv =>
    add_nonneg (mul_nonneg (sub_nonneg.2 ht') hu) (mul_nonneg ht hv)
  refine ⟨?_, ?_, ?_⟩ <;> rw [sideOf_along]
  · exact hside _ _ hp.1 hq.1
  · exact hside _ _ hp.2.1 hq.2.1
  · exact hside _ _ hp.2.2 hq.2.2

lemma mem_triangle_of_along {t : ℝ} (ht : 1 ≤ t) (hp : p ∈ triangle a b c)
    (h : along p q t ∈ triangle a b c) : q ∈ triangle a b c := by
  have hside : ∀ u v : ℝ, 0 ≤ u → 0 ≤ (1 - t) * u + t * v → 0 ≤ v := by
    intro u v hu huv
    have hneg : (1 - t) * u ≤ 0 := mul_nonpos_of_nonpos_of_nonneg (by linarith) hu
    exact nonneg_of_mul_nonneg_right (by linarith : 0 ≤ t * v) (by linarith)
  obtain ⟨hab, hbc, hca⟩ := h
  rw [sideOf_along] at hab hbc hca
  exact ⟨hside _ _ hp.1 hab, hside _ _ hp.2.1 hbc, hside _ _ hp.2.2 hca⟩

/-- The sides of a triangle enclose it. -/
theorem enclosed_triangle (harea : 0 < c.sideOf a b) :
    enclosed (segment a b ∪ segment b c ∪ segment c a) = triangle a b c := by
  obtain ⟨ha, hb, hc⟩ := corners_mem_triangle harea
  refine enclosed_eq a isClosed_triangle (limited_triangle harea) ?_ ?_ ha
    fun p t ht h => mem_triangle_of_along ht ha h
  · exact Set.union_subset
      (Set.union_subset (segment_subset_triangle ha hb) (segment_subset_triangle hb hc))
      (segment_subset_triangle hc ha)
  · rw [triangle_diff_sides harea]
    exact isOpen_inner_triangle

end Triangle

/-! ## Ellipses -/

section Ellipse

variable (c p : Point ℝ) (rx ry θ : ℝ)

/-- The point of an ellipse at an angle.  The ellipse is turned by `θ` about its center. -/
noncomputable def onEllipse (angle : ℝ) : Point ℝ :=
  rotate ⟨c.x + rx * Real.cos angle, c.y + ry * Real.sin angle⟩ c θ

/-- The square of the distance from the center of a turned ellipse, measured in its radii. -/
noncomputable def ellipseLevel : ℝ :=
  (((p.rotate c (-θ)).x - c.x) / rx) ^ 2 + (((p.rotate c (-θ)).y - c.y) / ry) ^ 2

@[fun_prop] lemma continuous_ellipseLevel : Continuous fun p => ellipseLevel c p rx ry θ := by
  simp only [ellipseLevel, rotate_x, rotate_y]
  fun_prop

lemma ellipseLevel_along (t : ℝ) :
    ellipseLevel c (along c p t) rx ry θ = t ^ 2 * ellipseLevel c p rx ry θ := by
  simp only [ellipseLevel, rotate_x, rotate_y, along]
  ring

/-- Each point of the unit circle has an angle within one turn. -/
lemma exists_angle {x y : ℝ} (h : x ^ 2 + y ^ 2 = 1) :
    ∃ a ∈ Set.Icc 0 (2 * Real.pi), Real.cos a = x ∧ Real.sin a = y := by
  have hx : -1 ≤ x ∧ x ≤ 1 := abs_le.1 (abs_le_one_iff_mul_self_le_one.2 (by nlinarith))
  have hcos := Real.cos_arccos hx.1 hx.2
  have hsin : Real.sin (Real.arccos x) = |y| := by
    rw [Real.sin_arccos, ← Real.sqrt_sq_eq_abs]
    congr 1
    linarith
  have hlow := Real.arccos_nonneg x
  have hhigh := Real.arccos_le_pi x
  -- The arc cosine covers the half with `0 ≤ y`, and its mirror image the other one.
  rcases le_total 0 y with hy | hy
  · exact ⟨Real.arccos x, ⟨hlow, by linarith⟩, hcos, by rw [hsin, abs_of_nonneg hy]⟩
  · refine ⟨2 * Real.pi - Real.arccos x, ⟨by linarith, by linarith⟩, ?_, ?_⟩
    · rw [Real.cos_two_pi_sub, hcos]
    · rw [Real.sin_two_pi_sub, hsin, abs_of_nonpos hy, neg_neg]

variable {rx ry}

lemma image_onEllipse (hrx : 0 < rx) (hry : 0 < ry) :
    onEllipse c rx ry θ '' Set.Icc 0 (2 * Real.pi) = {p | ellipseLevel c p rx ry θ = 1} := by
  ext p
  constructor
  · rintro ⟨a, -, rfl⟩
    show ellipseLevel c (onEllipse c rx ry θ a) rx ry θ = 1
    rw [ellipseLevel, onEllipse, rotate_rotate, add_neg_cancel, rotate_zero, add_sub_cancel_left,
      add_sub_cancel_left, mul_div_cancel_left₀ _ hrx.ne', mul_div_cancel_left₀ _ hry.ne',
      Real.cos_sq_add_sin_sq]
  · intro hp
    obtain ⟨a, ha, hcos, hsin⟩ := exists_angle hp
    refine ⟨a, ha, (rotate_eq_iff _ _ _ _).2 ?_⟩
    ext
    · show c.x + rx * Real.cos a = _
      rw [hcos, mul_div_cancel₀ _ hrx.ne', add_sub_cancel]
    · show c.y + ry * Real.sin a = _
      rw [hsin, mul_div_cancel₀ _ hry.ne', add_sub_cancel]

/-- No point of an ellipse is farther from the center than both radii together. -/
lemma sq_add_sq_le_of_ellipseLevel (hrx : 0 < rx) (hry : 0 < ry) {p : Point ℝ}
    (hp : ellipseLevel c p rx ry θ ≤ 1) :
    (p.x - c.x) ^ 2 + (p.y - c.y) ^ 2 ≤ (rx + ry) ^ 2 := by
  have hdistance := sq_add_sq_rotate p c c (-θ)
  rw [rotate_self] at hdistance
  rw [ellipseLevel] at hp
  generalize p.rotate c (-θ) = q at hp hdistance
  have hx : ((q.x - c.x) / rx) ^ 2 ≤ 1 := by linarith [sq_nonneg ((q.y - c.y) / ry)]
  have hy : ((q.y - c.y) / ry) ^ 2 ≤ 1 := by linarith [sq_nonneg ((q.x - c.x) / rx)]
  rw [div_pow, div_le_one (by positivity)] at hx hy
  linarith [add_sq rx ry, mul_pos hrx hry]

/-- An ellipse encloses the points at a level of at most one. -/
theorem enclosed_ellipse (hrx : 0 < rx) (hry : 0 < ry) :
    enclosed (onEllipse c rx ry θ '' Set.Icc 0 (2 * Real.pi)) =
      {p | ellipseLevel c p rx ry θ ≤ 1} := by
  rw [image_onEllipse c θ hrx hry]
  have hcontinuous := continuous_ellipseLevel c rx ry θ
  refine enclosed_eq c (isClosed_le hcontinuous continuous_const)
    (limited_of_sq_le (add_pos hrx hry).le fun p hp =>
      sq_add_sq_le_of_ellipseLevel c θ hrx hry hp)
    (fun p (hp : ellipseLevel c p rx ry θ = 1) => hp.le) ?_ ?_ ?_
  · have hinner : {p | ellipseLevel c p rx ry θ ≤ 1} \ {p | ellipseLevel c p rx ry θ = 1} =
        {p | ellipseLevel c p rx ry θ < 1} := by
      ext p
      exact (lt_iff_le_and_ne : ellipseLevel c p rx ry θ < 1 ↔ _).symm
    rw [hinner]
    exact isOpen_lt hcontinuous continuous_const
  · show ellipseLevel c c rx ry θ ≤ 1
    simp [ellipseLevel]
  · intro p t ht h
    have hlevel : t ^ 2 * ellipseLevel c p rx ry θ ≤ 1 := by
      rw [← ellipseLevel_along]
      exact h
    have hnonneg : 0 ≤ ellipseLevel c p rx ry θ := by
      unfold ellipseLevel
      positivity
    exact (le_mul_of_one_le_left hnonneg (one_le_pow₀ ht)).trans hlevel

end Ellipse

end Atelier.Point
