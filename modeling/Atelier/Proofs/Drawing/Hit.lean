/-
What is drawn is what is hit.

The calls that draw a shape are issued in a frame around its middle, and a pointer is tested
against the corners, the radii or the ends of the shape on the surface.  In exact arithmetic both
speak of the same points (`hit_iff_drawn`), and so do the calls and the tests for the handles.
-/
import Atelier.Proofs.Drawing.Calls
import Atelier.Proofs.Drawing.Canvas
import Atelier.Shape.Handles
import Atelier.Shape.Outline

namespace Atelier

open Point

namespace Shape

variable (s : Shape ℝ) (p q : Point ℝ)

/-! ## The frame of a shape -/

/-- The point of the surface for a point of the shape's frame: turned, and moved to the middle of
the shape. -/
noncomputable def toSurface : Point ℝ :=
  ⟨s.center.x + (q.x * Real.cos s.rotation - q.y * Real.sin s.rotation),
    s.center.y + (q.x * Real.sin s.rotation + q.y * Real.cos s.rotation)⟩

/-- The point of the shape's frame for a point of the surface. -/
noncomputable def toFrame : Point ℝ :=
  ⟨(p.rotate s.center (-s.rotation)).x - s.center.x,
    (p.rotate s.center (-s.rotation)).y - s.center.y⟩

lemma toSurface_eq_rotate :
    s.toSurface q = Point.rotate ⟨q.x + s.center.x, q.y + s.center.y⟩ s.center s.rotation := by
  ext
  · simp only [toSurface, rotate_x]
    ring
  · simp only [toSurface, rotate_y]
    ring

lemma toSurface_eq_iff : s.toSurface q = p ↔ q = s.toFrame p := by
  rw [toSurface_eq_rotate, rotate_eq_iff]
  constructor
  · intro h
    ext
    · simp [toFrame, ← h]
    · simp [toFrame, ← h]
  · rintro rfl
    ext
    · simp [toFrame]
    · simp [toFrame]

lemma mem_image_toSurface_iff {R : Set (Point ℝ)} : p ∈ s.toSurface '' R ↔ s.toFrame p ∈ R := by
  constructor
  · rintro ⟨q, hq, hp⟩
    exact (s.toSurface_eq_iff p q).1 hp ▸ hq
  · intro h
    exact ⟨s.toFrame p, h, (s.toSurface_eq_iff _ _).2 rfl⟩

/-- A point of an ellipse around the origin of the frame. -/
lemma toSurface_onEllipse (rx ry angle : ℝ) :
    s.toSurface (onEllipse ⟨0, 0⟩ rx ry 0 angle) = onEllipse s.center rx ry s.rotation angle := by
  rw [toSurface_eq_rotate]
  simp only [onEllipse, rotate_zero, zero_add]
  rw [add_comm, add_comm (ry * _)]

/-! ## What is painted -/

/-- The canvas on which the primitive of a shape is drawn. -/
noncomputable def framedCanvas : Canvas :=
  painted (.save :: calls s.enterFrame)

/-- Moving the origin and turning the axes come to one map. -/
@[simp] lemma toSurface_framedCanvas : s.framedCanvas.toSurface = s.toSurface := by
  funext q
  show (⟨(q.rotate ⟨0, 0⟩ s.rotation).x + s.center.x,
    (q.rotate ⟨0, 0⟩ s.rotation).y + s.center.y⟩ : Point ℝ) = s.toSurface q
  ext
  · simp [rotate_x, toSurface, add_comm]
  · simp [rotate_y, toSurface, add_comm]

@[simp] lemma filled_framedCanvas : s.framedCanvas.filled = ∅ := rfl

@[simp] lemma stroked_framedCanvas : s.framedCanvas.stroked = ∅ := rfl

/-- A shape is drawn as its primitive, in its frame. -/
lemma painted_draw : painted (calls s.draw) =
    ((calls s.drawPrimitive).foldl Canvas.take s.framedCanvas).take .restore := by
  simp only [framedCanvas, painted, draw, calls_bind, calls_call, List.foldl_append,
    List.foldl_cons, List.foldl_nil]
  rfl

lemma left_eq : -(s.bounds.width / 2) + s.center.x = s.bounds.x := by
  show -(s.bounds.width / 2) + (s.bounds.x + s.bounds.width / 2) = s.bounds.x
  ring

lemma right_eq : s.bounds.width / 2 + s.center.x = s.bounds.right := by
  show s.bounds.width / 2 + (s.bounds.x + s.bounds.width / 2) = s.bounds.x + s.bounds.width
  ring

lemma top_eq : -(s.bounds.height / 2) + s.center.y = s.bounds.y := by
  show -(s.bounds.height / 2) + (s.bounds.y + s.bounds.height / 2) = s.bounds.y
  ring

lemma bottom_eq : s.bounds.height / 2 + s.center.y = s.bounds.bottom := by
  show s.bounds.height / 2 + (s.bounds.y + s.bounds.height / 2) = s.bounds.y + s.bounds.height
  ring

/-- The corners of a triangle in its frame. -/
lemma triangleCorners_eq : s.triangleCorners =
    (s.toSurface ⟨0, -(s.bounds.height / 2)⟩,
      s.toSurface ⟨s.bounds.width / 2, s.bounds.height / 2⟩,
      s.toSurface ⟨-(s.bounds.width / 2), s.bounds.height / 2⟩) := by
  simp only [toSurface_eq_rotate, left_eq, right_eq, top_eq, bottom_eq, zero_add]
  rfl

/-- The ends of a line in its frame. -/
lemma lineEnds_eq : s.lineEnds =
    match s.slope with
    | .descending => (s.toSurface ⟨-(s.bounds.width / 2), -(s.bounds.height / 2)⟩,
        s.toSurface ⟨s.bounds.width / 2, s.bounds.height / 2⟩)
    | .ascending => (s.toSurface ⟨-(s.bounds.width / 2), s.bounds.height / 2⟩,
        s.toSurface ⟨s.bounds.width / 2, -(s.bounds.height / 2)⟩) := by
  simp only [toSurface_eq_rotate, left_eq, right_eq, top_eq, bottom_eq, lineEnds]
  cases s.slope <;> rfl

variable {s}

lemma filled_rectangle (h : s.kind = .rectangle) :
    (painted (calls s.draw)).filled = s.toSurface '' rectangle (-(s.bounds.width / 2))
      (-(s.bounds.height / 2)) s.bounds.width s.bounds.height := by
  simp [painted_draw, drawPrimitive, h, Canvas.take]

lemma filled_ellipse (h : s.kind = .ellipse) :
    (painted (calls s.draw)).filled = enclosed (onEllipse s.center (s.bounds.width / 2)
      (s.bounds.height / 2) s.rotation '' Set.Icc 0 (2 * Real.pi)) := by
  rw [← Subpath.inside_fullTurn]
  simp [painted_draw, drawPrimitive, h, Canvas.take, Canvas.arc, toSurface_onEllipse]

lemma filled_triangle (h : s.kind = .triangle) :
    (painted (calls s.draw)).filled =
      enclosed (segment s.triangleCorners.1 s.triangleCorners.2.1 ∪
        segment s.triangleCorners.2.1 s.triangleCorners.2.2 ∪
        segment s.triangleCorners.2.2 s.triangleCorners.1) := by
  rw [← Subpath.inside_triangle, triangleCorners_eq]
  simp [painted_draw, drawPrimitive, h, Canvas.take, Canvas.lineTo]
  rfl

lemma stroked_line (h : s.kind = .line) :
    (painted (calls s.draw)).stroked = segment s.lineEnds.1 s.lineEnds.2 := by
  rw [← Subpath.trace_line, lineEnds_eq]
  cases hslope : s.slope <;>
    simp [painted_draw, drawPrimitive, h, hslope, Canvas.take, Canvas.lineTo]

lemma filled_handles : (painted (calls s.drawHandles)).filled =
    ⋃ anchor ∈ Anchor.all, (handleBox (s.rotatedAnchor anchor)).points := by
  simp [painted, drawHandles, filled_boxes, Canvas.take]

lemma filled_rotationHandle : (painted (calls s.drawRotationHandle)).filled =
    enclosed (onEllipse s.rotationHandle rotationRadius rotationRadius 0 ''
      Set.Icc 0 (2 * Real.pi)) := by
  rw [← Subpath.inside_fullTurn]
  simp [painted, drawRotationHandle, Canvas.take, Canvas.arc, Canvas.lineTo]

/-! ## What is hit -/

variable {p}

lemma contains_rectangle (h : s.kind = .rectangle) (hwidth : 0 < s.bounds.width)
    (hheight : 0 < s.bounds.height) : s.contains p = true ↔
      s.toFrame p ∈ rectangle (-(s.bounds.width / 2)) (-(s.bounds.height / 2)) s.bounds.width
        s.bounds.height := by
  have hbounds : s.bounds.normalized = s.bounds := Box.normalized_normalized _
  have hleft := s.left_eq
  have htop := s.top_eq
  rw [contains, h, mem_rectangle_iff hwidth hheight]
  show s.bounds.containsRotated s.rotation p = true ↔ _
  rw [Box.containsRotated, hbounds, Box.contains_iff]
  show (s.bounds.x ≤ (p.rotate s.center (-s.rotation)).x ∧
    (p.rotate s.center (-s.rotation)).x ≤ s.bounds.x + s.bounds.width) ∧
      s.bounds.y ≤ (p.rotate s.center (-s.rotation)).y ∧
        (p.rotate s.center (-s.rotation)).y ≤ s.bounds.y + s.bounds.height ↔ _
  constructor
  · rintro ⟨⟨hx, hx'⟩, hy, hy'⟩
    refine ⟨⟨?_, ?_⟩, ?_, ?_⟩ <;> simp only [toFrame] <;> linarith
  · rintro ⟨⟨hx, hx'⟩, hy, hy'⟩
    simp only [toFrame] at hx hx' hy hy'
    refine ⟨⟨?_, ?_⟩, ?_, ?_⟩ <;> linarith

lemma contains_ellipse (h : s.kind = .ellipse) (hwidth : 0 < s.bounds.width)
    (hheight : 0 < s.bounds.height) : s.contains p = true ↔
      ellipseLevel s.center p (s.bounds.width / 2) (s.bounds.height / 2) s.rotation ≤ 1 := by
  have hrx : ¬ s.bounds.width / 2 ≤ 0 := not_le.2 (by linarith)
  have hry : ¬ s.bounds.height / 2 ≤ 0 := not_le.2 (by linarith)
  rw [contains, h]
  show s.ellipseContains p = true ↔ _
  simp [ellipseContains, ellipseLevel, hrx, hry, pow_two, center]

/-- The area of the box is twice that of the triangle in it. -/
lemma sideOf_triangleCorners : s.triangleCorners.2.2.sideOf s.triangleCorners.1
    s.triangleCorners.2.1 = s.bounds.width * s.bounds.height := by
  simp only [triangleCorners_eq, toSurface_eq_rotate]
  rw [sideOf_rotate]
  simp only [sideOf]
  ring

/-- Numbers with a positive sum have one sign exactly if none is negative. -/
lemma one_sign_iff {a b c : ℝ} (h : 0 < a + b + c) :
    (0 ≤ a ∧ 0 ≤ b) ∧ 0 ≤ c ∨ (a ≤ 0 ∧ b ≤ 0) ∧ c ≤ 0 ↔ 0 ≤ a ∧ 0 ≤ b ∧ 0 ≤ c := by
  constructor
  · rintro (⟨⟨ha, hb⟩, hc⟩ | ⟨⟨ha, hb⟩, hc⟩)
    · exact ⟨ha, hb, hc⟩
    · linarith
  · rintro ⟨ha, hb, hc⟩
    exact .inl ⟨⟨ha, hb⟩, hc⟩

lemma contains_triangle (h : s.kind = .triangle) (hwidth : 0 < s.bounds.width)
    (hheight : 0 < s.bounds.height) : s.contains p = true ↔
      p ∈ triangle s.triangleCorners.1 s.triangleCorners.2.1 s.triangleCorners.2.2 := by
  -- The three sides add up to the area, so that they cannot all be negative.
  have hsum := sideOf_add s.triangleCorners.1 s.triangleCorners.2.1 s.triangleCorners.2.2 p
  rw [sideOf_triangleCorners] at hsum
  rw [contains, h]
  show s.triangleContains p = true ↔ _
  refine Iff.trans ?_ (one_sign_iff (hsum ▸ mul_pos hwidth hheight))
  simp [triangleContains, hwidth.not_ge, hheight.not_ge]

lemma contains_line (h : s.kind = .line) : s.contains p = true ↔
    ∃ q ∈ segment s.lineEnds.1 s.lineEnds.2, p.distance q ≤ lineTolerance := by
  rw [← distanceToSegment_le_iff, contains, h]
  exact decide_eq_true_iff

lemma containsRotated_handleBox (middle : Point ℝ) :
    (handleBox middle).containsRotated Scalar.zero p = true ↔ p ∈ (handleBox middle).points := by
  have hwidth : 0 < (handleBox middle).width := by simp [handleBox, handleSize]
  have hheight : 0 < (handleBox middle).height := by simp [handleBox, handleSize]
  rw [Box.mem_points_iff hwidth hheight, Box.containsRotated,
    Box.normalized_of_nonneg _ hwidth.le hheight.le]
  simp

lemma isOverHandle_iff : s.isOverHandle p = true ↔
    ∃ anchor ∈ Anchor.all, p ∈ (handleBox (s.rotatedAnchor anchor)).points := by
  rw [isOverHandle, handleAt?, List.find?_isSome]
  simp only [containsRotated_handleBox]

lemma isOverRotationHandle_iff : s.isOverRotationHandle p = true ↔
    ellipseLevel s.rotationHandle p rotationRadius rotationRadius 0 ≤ 1 := by
  have hradius : (0 : ℝ) < rotationRadius := by simp [rotationRadius]
  have hlevel : ellipseLevel s.rotationHandle p rotationRadius rotationRadius 0 =
      ((p.x - s.rotationHandle.x) ^ 2 + (p.y - s.rotationHandle.y) ^ 2) / rotationRadius ^ 2 := by
    simp only [ellipseLevel, neg_zero, rotate_zero]
    ring
  rw [hlevel, div_le_one (pow_pos hradius 2), ← distance_le_iff _ _ hradius.le]
  exact decide_eq_true_iff

/-- What is drawn is what is hit.  In exact arithmetic a pointer is on a rectangle, an ellipse or
a triangle with a positive size exactly if it is on a point that drawing the shape fills, on a line
exactly if it is as near as `lineTolerance` to a point that drawing it strokes, and over one of its
handles exactly if it is on a point that drawing them fills. -/
theorem hit_iff_drawn (s : Shape ℝ) (p : Point ℝ) :
    (s.kind ≠ .line → 0 < s.bounds.width → 0 < s.bounds.height →
      (s.contains p = true ↔ p ∈ (painted (calls s.draw)).filled)) ∧
    (s.kind = .line →
      (s.contains p = true ↔
        ∃ q ∈ (painted (calls s.draw)).stroked, p.distance q ≤ lineTolerance)) ∧
    (s.isOverHandle p = true ↔ p ∈ (painted (calls s.drawHandles)).filled) ∧
    (s.isOverRotationHandle p = true ↔ p ∈ (painted (calls s.drawRotationHandle)).filled) := by
  refine ⟨fun hkind hwidth hheight => ?_, fun hkind => ?_, ?_, ?_⟩
  · match h : s.kind with
    | .rectangle =>
      rw [filled_rectangle h, mem_image_toSurface_iff, contains_rectangle h hwidth hheight]
    | .ellipse =>
      rw [filled_ellipse h, enclosed_ellipse _ _ (half_pos hwidth) (half_pos hheight),
        contains_ellipse h hwidth hheight]
      rfl
    | .triangle =>
      have harea : 0 < s.triangleCorners.2.2.sideOf s.triangleCorners.1 s.triangleCorners.2.1 := by
        rw [sideOf_triangleCorners]
        exact mul_pos hwidth hheight
      rw [filled_triangle h, enclosed_triangle harea, contains_triangle h hwidth hheight]
    | .line => exact absurd h hkind
  · rw [stroked_line hkind, contains_line hkind]
  · rw [filled_handles, isOverHandle_iff]
    simp
  · have hradius : (0 : ℝ) < rotationRadius := by simp [rotationRadius]
    rw [filled_rotationHandle, enclosed_ellipse _ _ hradius hradius, isOverRotationHandle_iff]
    rfl

/-- A shape of 40 by 20 pixels, turned by a quarter about its middle `(20, 10)`. -/
noncomputable def upended (kind : ShapeKind) : Shape ℝ :=
  ⟨.ofNat 1, kind, 0, 0, Scalar.ofNat 40, Scalar.ofNat 20, Scalar.half Real.pi, .descending,
    .default⟩

lemma bounds_upended (kind : ShapeKind) : (upended kind).bounds = ⟨0, 0, 40, 20⟩ := by
  rw [bounds, Box.normalized_of_nonneg _ (by simp [frame, upended]) (by simp [frame, upended])]
  simp [frame, upended]

/-- The apex of a triangle points to the right, and a line starts at the top. -/
lemma toSurface_upended (kind : ShapeKind) (x y : ℝ) :
    (upended kind).toSurface ⟨x, y⟩ = ⟨20 - y, 10 + x⟩ := by
  have hcenter : (upended kind).center = ⟨20, 10⟩ := by
    rw [center, bounds_upended]
    ext
    · norm_num [Box.center_x]
    · norm_num [Box.center_y]
  have hrotation : (upended kind).rotation = Real.pi / 2 := rfl
  rw [toSurface_eq_rotate, hcenter, hrotation]
  ext
  · norm_num [rotate_x]
  · norm_num [rotate_y]

theorem hit_iff_drawn_upended :
    (0 < (upended .triangle).bounds.width ∧ 0 < (upended .triangle).bounds.height ∧
      ⟨30, 10⟩ ∈ (painted (calls (upended .triangle).draw)).filled) ∧
    ∃ q ∈ (painted (calls (upended .line).draw)).stroked,
      Point.distance ⟨33, -6⟩ q ≤ lineTolerance := by
  have hwidth : 0 < (upended .triangle).bounds.width := by norm_num [bounds_upended]
  have hheight : 0 < (upended .triangle).bounds.height := by norm_num [bounds_upended]
  obtain ⟨hfilled, -⟩ := hit_iff_drawn (upended .triangle) ⟨30, 10⟩
  obtain ⟨-, hstroked, -⟩ := hit_iff_drawn (upended .line) ⟨33, -6⟩
  refine ⟨⟨hwidth, hheight, (hfilled (by decide) hwidth hheight).1 ?_⟩, (hstroked rfl).1 ?_⟩
  · have hapex : (upended .triangle).triangleCorners.1 = ⟨30, 10⟩ := by
      rw [triangleCorners_eq, toSurface_upended, bounds_upended]
      norm_num
    have harea := (upended .triangle).sideOf_triangleCorners ▸ mul_pos hwidth hheight
    rw [contains_triangle rfl hwidth hheight, ← hapex]
    exact (corners_mem_triangle harea).1
  · have hstart : (upended .line).lineEnds.1 = ⟨30, -10⟩ := by
      rw [lineEnds_eq]
      show (upended .line).toSurface _ = _
      rw [toSurface_upended, bounds_upended]
      norm_num
    rw [contains_line rfl]
    refine ⟨_, left_mem_segment _ _, ?_⟩
    rw [hstart, distance_le_iff _ _ (by norm_num [lineTolerance])]
    norm_num [lineTolerance]

end Shape

end Atelier
