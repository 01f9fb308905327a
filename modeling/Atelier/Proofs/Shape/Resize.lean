/-
Where a resized shape is on the surface, in exact arithmetic.

The edges of a box are moved in the frame of its shape, in which nothing is turned.  The new box has
another middle to be turned about, and so the shape is moved until the anchor across from the
pointer is back at its place.  All anchors are then where a turn about the old middle would have put
them (`rotatedAnchor_resize`).  So the pointer can be followed in the old frame: an edge goes with
it as far as the edge across, and a corner that stays on its side is where the pointer is
(`dragged_resize`).
-/
import Atelier.Proofs.Shape.NormalForm

namespace Atelier

namespace Point

variable (p q c : Point ℝ) (θ : ℝ)

/-- The way between two points turns with them, about whichever center. -/
lemma rotate_x_sub : (p.rotate c θ).x - (q.rotate c θ).x =
    (p.x - q.x) * Real.cos θ - (p.y - q.y) * Real.sin θ := by
  simp only [rotate_x]
  ring

lemma rotate_y_sub : (p.rotate c θ).y - (q.rotate c θ).y =
    (p.x - q.x) * Real.sin θ + (p.y - q.y) * Real.cos θ := by
  simp only [rotate_y]
  ring

end Point

/-! ## Edges and anchors -/

namespace Anchor

/-- Whether dragging the anchor changes the width: it moves the left or the right edge. -/
def changesWidth (anchor : Anchor) : Bool :=
  anchor.movesLeft || anchor.movesRight

/-- Whether dragging the anchor changes the height: it moves the top or the bottom edge. -/
def changesHeight (anchor : Anchor) : Bool :=
  anchor.movesTop || anchor.movesBottom

end Anchor

namespace Box

/-- The point is past the left or right edge that lies across from the one the anchor moves. -/
def PastWidth (b : Box ℝ) (anchor : Anchor) (p : Point ℝ) : Prop :=
  anchor.movesLeft = true ∧ b.right < p.x ∨ anchor.movesRight = true ∧ p.x < b.x

/-- The point is past the top or bottom edge that lies across from the one the anchor moves. -/
def PastHeight (b : Box ℝ) (anchor : Anchor) (p : Point ℝ) : Prop :=
  anchor.movesTop = true ∧ b.bottom < p.y ∨ anchor.movesBottom = true ∧ p.y < b.y

/-- The place of an anchor on the border of a box. -/
noncomputable def anchorPoint (b : Box ℝ) : Anchor → Point ℝ
  | .northWest => ⟨b.x, b.y⟩
  | .north => ⟨b.center.x, b.y⟩
  | .northEast => ⟨b.right, b.y⟩
  | .east => ⟨b.right, b.center.y⟩
  | .southEast => ⟨b.right, b.bottom⟩
  | .south => ⟨b.center.x, b.bottom⟩
  | .southWest => ⟨b.x, b.bottom⟩
  | .west => ⟨b.x, b.center.y⟩

end Box

namespace Shape

lemma anchorPosition_eq (s : Shape ℝ) (anchor : Anchor) :
    s.anchorPosition anchor = s.bounds.anchorPoint anchor := by
  cases anchor <;> rfl

section

variable {b : Box ℝ} {anchor : Anchor} {p : Point ℝ}

lemma width_dragEdges_of_keeps (h : anchor.changesWidth = false) :
    (dragEdges b anchor p).width = b.width := by
  have hright : b.right = b.x + b.width := rfl
  cases anchor <;> simp_all [dragEdges, Anchor.changesWidth, Anchor.movesLeft, Anchor.movesRight]

lemma height_dragEdges_of_keeps (h : anchor.changesHeight = false) :
    (dragEdges b anchor p).height = b.height := by
  have hbottom : b.bottom = b.y + b.height := rfl
  cases anchor <;> simp_all [dragEdges, Anchor.changesHeight, Anchor.movesTop, Anchor.movesBottom]

/-- An edge stops at the one across from it. -/
lemma width_dragEdges_of_past (h : b.PastWidth anchor p) : (dragEdges b anchor p).width = 0 := by
  rcases h with ⟨hmoves, hpast⟩ | ⟨hmoves, hpast⟩
  · cases anchor <;> simp_all [dragEdges, Anchor.movesLeft, Anchor.movesRight, hpast.le]
  · cases anchor <;> simp_all [dragEdges, Anchor.movesLeft, Anchor.movesRight, hpast.le]

lemma height_dragEdges_of_past (h : b.PastHeight anchor p) :
    (dragEdges b anchor p).height = 0 := by
  rcases h with ⟨hmoves, hpast⟩ | ⟨hmoves, hpast⟩
  · cases anchor <;> simp_all [dragEdges, Anchor.movesTop, Anchor.movesBottom, hpast.le]
  · cases anchor <;> simp_all [dragEdges, Anchor.movesTop, Anchor.movesBottom, hpast.le]

/-- On its side of the edge across, a dragged anchor is level with the pointer. -/
lemma anchorPoint_dragEdges_x (hchanges : anchor.changesWidth = true)
    (h : ¬ b.PastWidth anchor p) :
    ((dragEdges b anchor p).anchorPoint anchor).x = p.x := by
  simp only [Box.PastWidth, not_or, not_and, not_lt] at h
  cases anchor <;>
    simp_all [dragEdges, Box.anchorPoint, Box.right, Anchor.changesWidth, Anchor.movesLeft,
      Anchor.movesRight]

lemma anchorPoint_dragEdges_y (hchanges : anchor.changesHeight = true)
    (h : ¬ b.PastHeight anchor p) :
    ((dragEdges b anchor p).anchorPoint anchor).y = p.y := by
  simp only [Box.PastHeight, not_or, not_and, not_lt] at h
  cases anchor <;>
    simp_all [dragEdges, Box.anchorPoint, Box.bottom, Anchor.changesHeight, Anchor.movesTop,
      Anchor.movesBottom]

/-- The anchor across the box stays where it is. -/
lemma anchorPoint_opposite_dragEdges :
    (dragEdges b anchor p).anchorPoint anchor.opposite = b.anchorPoint anchor.opposite := by
  cases anchor <;> ext <;>
    simp [dragEdges, Box.anchorPoint, Box.right, Box.bottom, Box.center, Anchor.opposite,
      Anchor.movesLeft, Anchor.movesRight, Anchor.movesTop, Anchor.movesBottom]

end

/-! ## On the surface -/

variable (s : Shape ℝ) (anchor a : Anchor) (p : Point ℝ)

/-- A point of the surface turned back to where it is before the rotation of the shape. -/
noncomputable def unturned : Point ℝ :=
  p.rotate s.center (-s.rotation)

/-- The box with its edges dragged to a point of the surface, before the shape is moved back to its
fixed anchor. -/
noncomputable def draggedBox : Box ℝ :=
  dragEdges s.bounds anchor (s.unturned p)

lemma bounds_draggedBox :
    (s.withFrame (s.draggedBox anchor p)).bounds = s.draggedBox anchor p := by
  have hwidth : 0 ≤ s.bounds.width := by simp [bounds]
  have hheight : 0 ≤ s.bounds.height := by simp [bounds]
  exact Box.normalized_of_nonneg _ (width_dragEdges_nonneg hwidth anchor _)
    (height_dragEdges_nonneg hheight anchor _)

lemma rotatedAnchor_eq :
    s.rotatedAnchor a = (s.bounds.anchorPoint a).rotate s.bounds.center s.rotation := by
  rw [rotatedAnchor, anchorPosition_eq, center]

lemma bounds_translate (dx dy : ℝ) : (s.translate dx dy).bounds =
    ⟨s.bounds.x + dx, s.bounds.y + dy, s.bounds.width, s.bounds.height⟩ := by
  have hx : min (s.x + dx) (s.x + dx + s.width) = min s.x (s.x + s.width) + dx := by
    rw [add_right_comm, min_add_add_right]
  have hy : min (s.y + dy) (s.y + dy + s.height) = min s.y (s.y + s.height) + dy := by
    rw [add_right_comm, min_add_add_right]
  simp only [bounds, Box.normalized_eq, frame, translate, hx, hy]

/-- A shape that is moved takes its anchors along. -/
lemma rotatedAnchor_translate (dx dy : ℝ) : (s.translate dx dy).rotatedAnchor a =
    ⟨(s.rotatedAnchor a).x + dx, (s.rotatedAnchor a).y + dy⟩ := by
  have hpoint : (s.translate dx dy).bounds.anchorPoint a =
      ⟨(s.bounds.anchorPoint a).x + dx, (s.bounds.anchorPoint a).y + dy⟩ := by
    rw [bounds_translate]
    cases a <;> ext <;>
      simp only [Box.anchorPoint, Box.right, Box.bottom, Box.center_x, Box.center_y] <;> ring
  rw [rotatedAnchor_eq, rotatedAnchor_eq, hpoint, bounds_translate]
  ext
  · simp only [Point.rotate_x, Box.center_x, Box.center_y, translate]
    ring
  · simp only [Point.rotate_y, Box.center_x, Box.center_y, translate]
    ring

/-- On the surface, a resized shape has its anchors where the dragged box has them after a turn
about the middle of the old one. -/
lemma rotatedAnchor_resize : (s.resize anchor p).rotatedAnchor a =
    ((s.draggedBox anchor p).anchorPoint a).rotate s.center s.rotation := by
  let box := s.draggedBox anchor p
  let t := s.withFrame box
  let fixed := anchor.opposite
  have hturned : ∀ b, t.rotatedAnchor b = (box.anchorPoint b).rotate box.center s.rotation := by
    intro b
    rw [rotatedAnchor_eq, s.bounds_draggedBox anchor p]
    rfl
  by_cases hrotation : s.rotation = 0
  · have hresize : s.resize anchor p = t := by
      show (if (s.rotation == Scalar.zero) = true then t else _) = t
      rw [if_pos (by simp [hrotation])]
    rw [hresize, hturned, hrotation, Point.rotate_zero, Point.rotate_zero]
  · -- The fixed anchor is the same before the rotation, but is turned about another middle.
    have hfixed : s.rotatedAnchor fixed = (box.anchorPoint fixed).rotate s.center s.rotation := by
      rw [rotatedAnchor_eq, ← anchorPoint_opposite_dragEdges]
      rfl
    have hresize : s.resize anchor p = t.translate
        ((s.rotatedAnchor fixed).x - (t.rotatedAnchor fixed).x)
        ((s.rotatedAnchor fixed).y - (t.rotatedAnchor fixed).y) := by
      rw [rotatedAnchor, rotatedAnchor, center, center, s.bounds_draggedBox anchor p]
      show (if (s.rotation == Scalar.zero) = true then t else _) = _
      rw [if_neg (by simp [hrotation])]
      rfl
    rw [hresize, rotatedAnchor_translate, hturned, hturned, hfixed]
    ext
    · have hway := Point.rotate_x_sub (box.anchorPoint a) (box.anchorPoint fixed)
      linear_combination hway box.center s.rotation - hway s.center s.rotation
    · have hway := Point.rotate_y_sub (box.anchorPoint a) (box.anchorPoint fixed)
      linear_combination hway box.center s.rotation - hway s.center s.rotation

lemma unturned_rotate (q : Point ℝ) : s.unturned (q.rotate s.center s.rotation) = q := by
  rw [unturned, Point.rotate_rotate, add_neg_cancel, Point.rotate_zero]

lemma unturned_inj {p q : Point ℝ} (h : s.unturned p = s.unturned q) : p = q := by
  have hturned := (Point.rotate_eq_iff p (s.unturned q) s.center (-s.rotation)).1 h
  rwa [neg_neg, unturned, Point.rotate_rotate, neg_add_cancel, Point.rotate_zero] at hturned

/-- What becomes of a shape when the handle at an anchor is dragged to a point of the surface. -/
structure Dragged (s : Shape ℝ) (anchor : Anchor) (p : Point ℝ) (t : Shape ℝ) : Prop where
  /-- The anchor across the box is where it was on the surface. -/
  fixed : t.rotatedAnchor anchor.opposite = s.rotatedAnchor anchor.opposite
  width_nonneg : 0 ≤ t.width
  height_nonneg : 0 ≤ t.height
  width_kept : anchor.changesWidth = false → t.width = s.bounds.width
  height_kept : anchor.changesHeight = false → t.height = s.bounds.height
  /-- Along each axis that it changes, the anchor is level with the pointer, seen in the old frame,
  unless the pointer is past the edge across. -/
  level_x : anchor.changesWidth = true → ¬ s.bounds.PastWidth anchor (s.unturned p) →
    (s.unturned (t.rotatedAnchor anchor)).x = (s.unturned p).x
  level_y : anchor.changesHeight = true → ¬ s.bounds.PastHeight anchor (s.unturned p) →
    (s.unturned (t.rotatedAnchor anchor)).y = (s.unturned p).y
  width_past : s.bounds.PastWidth anchor (s.unturned p) → t.width = 0
  height_past : s.bounds.PastHeight anchor (s.unturned p) → t.height = 0
  /-- A corner is at the pointer itself. -/
  corner : anchor.changesWidth = true → anchor.changesHeight = true →
    ¬ s.bounds.PastWidth anchor (s.unturned p) → ¬ s.bounds.PastHeight anchor (s.unturned p) →
    t.rotatedAnchor anchor = p

/-- Resizing a shape, whatever its size and rotation, drags its handle to the pointer. -/
theorem dragged_resize : s.Dragged anchor p (s.resize anchor p) := by
  obtain ⟨hwidth, hheight⟩ := s.size_resize anchor p
  obtain ⟨hwidth', hheight'⟩ := s.size_resize_nonneg anchor p
  have hplace : s.unturned ((s.resize anchor p).rotatedAnchor anchor) =
      (s.draggedBox anchor p).anchorPoint anchor := by
    rw [rotatedAnchor_resize, unturned_rotate]
  have hx : anchor.changesWidth = true → ¬ s.bounds.PastWidth anchor (s.unturned p) →
      (s.unturned ((s.resize anchor p).rotatedAnchor anchor)).x = (s.unturned p).x := by
    intro hchanges hpast
    rw [hplace]
    exact anchorPoint_dragEdges_x hchanges hpast
  have hy : anchor.changesHeight = true → ¬ s.bounds.PastHeight anchor (s.unturned p) →
      (s.unturned ((s.resize anchor p).rotatedAnchor anchor)).y = (s.unturned p).y := by
    intro hchanges hpast
    rw [hplace]
    exact anchorPoint_dragEdges_y hchanges hpast
  constructor
  case fixed =>
    rw [rotatedAnchor_resize, rotatedAnchor_eq, draggedBox, anchorPoint_opposite_dragEdges, center]
  case width_nonneg => exact hwidth'
  case height_nonneg => exact hheight'
  case width_kept => exact fun hkeeps => hwidth.trans (width_dragEdges_of_keeps hkeeps)
  case height_kept => exact fun hkeeps => hheight.trans (height_dragEdges_of_keeps hkeeps)
  case level_x => exact hx
  case level_y => exact hy
  case width_past => exact fun hpast => hwidth.trans (width_dragEdges_of_past hpast)
  case height_past => exact fun hpast => hheight.trans (height_dragEdges_of_past hpast)
  case corner =>
    intro hwide hhigh hpast hpast'
    exact s.unturned_inj (Point.ext (hx hwide hpast) (hy hhigh hpast'))

/-- A line of 40 by 20 pixels, drawn to the left and turned by a right angle. -/
noncomputable def leaning : Shape ℝ :=
  ⟨.ofNat 1, .line, Scalar.ofNat 40, 0, -Scalar.ofNat 40, Scalar.ofNat 20, Scalar.half Real.pi,
    .ascending, .default⟩

lemma bounds_leaning : leaning.bounds = ⟨0, 0, 40, 20⟩ := by
  norm_num [bounds, Box.normalized_eq, frame, leaning]

lemma unturned_leaning (x y : ℝ) : leaning.unturned ⟨x, y⟩ = ⟨10 + y, 30 - x⟩ := by
  have hcenter : leaning.center = ⟨20, 10⟩ := by
    rw [center, bounds_leaning]
    ext <;> norm_num [Box.center_x, Box.center_y]
  rw [unturned, hcenter]
  ext
  · norm_num [Point.rotate_x, leaning]
    ring
  · norm_num [Point.rotate_y, leaning]
    ring

/-- Its corner follows the pointer, and stops at the edge across when the pointer is past it. -/
theorem dragged_resize_leaning :
    (¬ leaning.bounds.PastWidth .southEast (leaning.unturned ⟨5, 45⟩) ∧
      ¬ leaning.bounds.PastHeight .southEast (leaning.unturned ⟨5, 45⟩) ∧
      (leaning.resize .southEast ⟨5, 45⟩).rotatedAnchor .southEast = ⟨5, 45⟩) ∧
    leaning.bounds.PastWidth .southEast (leaning.unturned ⟨5, -20⟩) ∧
      (leaning.resize .southEast ⟨5, -20⟩).width = 0 := by
  have hwidth : ¬ leaning.bounds.PastWidth .southEast (leaning.unturned ⟨5, 45⟩) := by
    norm_num [Box.PastWidth, Anchor.movesLeft, bounds_leaning, unturned_leaning]
  have hheight : ¬ leaning.bounds.PastHeight .southEast (leaning.unturned ⟨5, 45⟩) := by
    norm_num [Box.PastHeight, Anchor.movesTop, bounds_leaning, unturned_leaning]
  have hpast : leaning.bounds.PastWidth .southEast (leaning.unturned ⟨5, -20⟩) := by
    norm_num [Box.PastWidth, Anchor.movesRight, bounds_leaning, unturned_leaning]
  have hfollowed := dragged_resize leaning .southEast ⟨5, 45⟩
  have hstopped := dragged_resize leaning .southEast ⟨5, -20⟩
  exact ⟨⟨hwidth, hheight, hfollowed.corner rfl rfl hwidth hheight⟩, hpast,
    hstopped.width_past hpast⟩

end Shape

end Atelier
