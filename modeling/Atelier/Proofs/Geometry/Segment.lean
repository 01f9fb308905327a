/-
Segments, and the distance to one.

`Point.distanceToSegment` is the distance to the nearest point of the segment, also where its
two ends coincide (`exists_distance_eq_distanceToSegment`, `distanceToSegment_le`).  In the
Euclidean plane it is the least of the distances to the points between the ends, in either order
(`isLeast_dist_distanceToSegment`).
-/
import Mathlib.Analysis.InnerProductSpace.PiL2
import Atelier.Proofs.Geometry.Exact

namespace Atelier.Point

variable (a b c p q : Point ℝ)

/-- The point that divides the way from `a` to `b`: at 0 it is `a`, and at 1 it is `b`. -/
def along (t : ℝ) : Point ℝ :=
  ⟨a.x + t * (b.x - a.x), a.y + t * (b.y - a.y)⟩

/-- The points between `a` and `b`, with both ends. -/
def segment : Set (Point ℝ) :=
  along a b '' Set.Icc 0 1

@[simp] lemma along_zero : along a b 0 = a := by
  simp [along]

@[simp] lemma along_one : along a b 1 = b := by
  simp [along]

lemma left_mem_segment : a ∈ segment a b :=
  ⟨0, by simp, along_zero a b⟩

@[simp] lemma segment_self : segment a a = {a} := by
  ext p
  constructor
  · rintro ⟨t, -, rfl⟩
    simp [along]
  · rintro rfl
    exact left_mem_segment p p

/-- The square of the distance from `p` to the points of a line, around the point at `s`. -/
lemma distance_along_sq (s t : ℝ) :
    (p.x - (along a b t).x) ^ 2 + (p.y - (along a b t).y) ^ 2 =
      (p.x - (along a b s).x) ^ 2 + (p.y - (along a b s).y) ^ 2 +
        ((b.x - a.x) ^ 2 + (b.y - a.y) ^ 2) * (t - s) ^ 2 +
        2 * (t - s) * (((b.x - a.x) ^ 2 + (b.y - a.y) ^ 2) * s -
          ((p.x - a.x) * (b.x - a.x) + (p.y - a.y) * (b.y - a.y))) := by
  simp only [along]
  ring

variable {a b} in
lemma length_sq_pos (h : a ≠ b) : 0 < (b.x - a.x) ^ 2 + (b.y - a.y) ^ 2 := by
  by_contra hnonpos
  have hx : b.x - a.x = 0 := by nlinarith [sq_nonneg (b.x - a.x), sq_nonneg (b.y - a.y)]
  have hy : b.y - a.y = 0 := by nlinarith [sq_nonneg (b.x - a.x), sq_nonneg (b.y - a.y)]
  exact h (Point.ext (by linarith) (by linarith))

/-- The place of the point of a segment that is nearest to `p`. -/
noncomputable def nearest : ℝ :=
  Scalar.clampUnit (((p.x - a.x) * (b.x - a.x) + (p.y - a.y) * (b.y - a.y)) /
    ((b.x - a.x) ^ 2 + (b.y - a.y) ^ 2))

lemma distanceToSegment_eq : p.distanceToSegment a b = p.distance (along a b (nearest a b p)) := by
  have hlength : (b.x - a.x) * (b.x - a.x) + (b.y - a.y) * (b.y - a.y) =
      (b.x - a.x) ^ 2 + (b.y - a.y) ^ 2 := by ring
  rcases eq_or_ne a b with rfl | hne
  · simp [distanceToSegment, along]
  · have hpos := length_sq_pos hne
    simp only [distanceToSegment, Scalar.beq_real, Scalar.zero_real, hlength, hpos.ne',
      decide_false, Bool.false_eq_true, if_false]
    rfl

/-- The distance to a segment is the distance to one of its points. -/
lemma exists_distance_eq_distanceToSegment :
    ∃ q ∈ segment a b, p.distance q = p.distanceToSegment a b :=
  ⟨_, Set.mem_image_of_mem _ (Scalar.clampUnit_mem_Icc _), (distanceToSegment_eq a b p).symm⟩

variable {a b q} in
/-- No point of a segment is nearer than the distance to it. -/
lemma distanceToSegment_le (hq : q ∈ segment a b) : p.distanceToSegment a b ≤ p.distance q := by
  obtain ⟨t, ht, rfl⟩ := hq
  rw [distanceToSegment_eq, distance_eq, distance_eq, distance_along_sq a b p (nearest a b p) t]
  refine Real.sqrt_le_sqrt ?_
  rcases eq_or_ne a b with rfl | hne
  · simp
  · have hpos := length_sq_pos hne
    -- Off the nearest place the square of the distance grows: either the place is the foot of
    -- `p`, or it is an end of the segment, which lies all on one side of the foot.
    have haway := Scalar.clampUnit_sub_mul_nonneg
      (((p.x - a.x) * (b.x - a.x) + (p.y - a.y) * (b.y - a.y)) /
        ((b.x - a.x) ^ 2 + (b.y - a.y) ^ 2)) ht
    rw [← nearest] at haway
    generalize nearest a b p = s at haway ⊢
    generalize (b.x - a.x) ^ 2 + (b.y - a.y) ^ 2 = l at hpos haway ⊢
    generalize (p.x - a.x) * (b.x - a.x) + (p.y - a.y) * (b.y - a.y) = d at haway ⊢
    have hslope : (t - s) * (l * s - d) = l * ((t - s) * (s - d / l)) := by
      field_simp
    have hrest : 0 ≤ (t - s) * (l * s - d) := hslope ▸ mul_nonneg hpos.le haway
    linarith [mul_nonneg hpos.le (sq_nonneg (t - s))]

/-- A segment is within a distance exactly if one of its points is. -/
lemma distanceToSegment_le_iff {r : ℝ} :
    p.distanceToSegment a b ≤ r ↔ ∃ q ∈ segment a b, p.distance q ≤ r := by
  constructor
  · intro h
    obtain ⟨q, hq, hdistance⟩ := exists_distance_eq_distanceToSegment a b p
    exact ⟨q, hq, hdistance.trans_le h⟩
  · rintro ⟨q, hq, hdistance⟩
    exact (distanceToSegment_le p hq).trans hdistance

lemma isLeast_distanceToSegment : IsLeast (p.distance '' segment a b) (p.distanceToSegment a b) := by
  constructor
  · exact exists_distance_eq_distanceToSegment a b p
  · rintro _ ⟨q, hq, rfl⟩
    exact distanceToSegment_le p hq

/-- From the other end a segment is passed the other way round. -/
lemma along_one_sub (t : ℝ) : along a b (1 - t) = along b a t := by
  ext
  · simp only [along]
    ring
  · simp only [along]
    ring

lemma segment_comm : segment a b = segment b a := by
  have hsubset (a b : Point ℝ) : segment a b ⊆ segment b a := by
    rintro _ ⟨t, ⟨hlow, hhigh⟩, rfl⟩
    exact ⟨1 - t, ⟨sub_nonneg.2 hhigh, sub_le_self 1 hlow⟩, along_one_sub b a t⟩
  exact (hsubset a b).antisymm (hsubset b a)

/-! ## The Euclidean plane -/

/-- A point of the surface in the plane. -/
noncomputable def toPlane : EuclideanSpace ℝ (Fin 2) :=
  WithLp.toLp _ ![p.x, p.y]

lemma distance_eq_dist : p.distance q = dist p.toPlane q.toPlane := by
  rw [distance_eq, EuclideanSpace.dist_eq, Fin.sum_univ_two, Real.dist_eq, Real.dist_eq, sq_abs,
    sq_abs]
  rfl

lemma toPlane_along (t : ℝ) :
    (along a b t).toPlane = a.toPlane + t • (b.toPlane - a.toPlane) := by
  ext i
  fin_cases i
  · simp [along, toPlane]
  · simp [along, toPlane]

/-- The distance from `p` to the segment between `a` and `b`, which may coincide, is the least of
the distances from `p` to the points `a + t • (b - a)` of the plane, with `t` from 0 to 1.  It does
not depend on the order of the ends. -/
theorem isLeast_dist_distanceToSegment (p a b : Point ℝ) :
    IsLeast ((fun t : ℝ => dist p.toPlane (a.toPlane + t • (b.toPlane - a.toPlane))) ''
        Set.Icc 0 1) (p.distanceToSegment a b) ∧
      p.distanceToSegment b a = p.distanceToSegment a b := by
  constructor
  · have hleast := isLeast_distanceToSegment a b p
    rw [segment, Set.image_image] at hleast
    simpa only [distance_eq_dist, toPlane_along] using hleast
  · have hleast := isLeast_distanceToSegment b a p
    rw [segment_comm] at hleast
    exact hleast.unique (isLeast_distanceToSegment a b p)

end Atelier.Point
