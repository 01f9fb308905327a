/-
What a list of calls paints, in exact arithmetic.

A canvas keeps the frame in which it reads coordinates, the path that is being drawn, and the
points painted so far.  A path is a list of subpaths, each with the curve that it has traced on the
surface; a subpath is filled with all that its curve encloses once it is closed.  Colors, widths
and dashes change how points are painted, and not which.
-/
import Atelier.Drawing.Surface
import Atelier.Proofs.Geometry.Figures

namespace Atelier

open Point

/-- A part of a path that is drawn without lifting the pen. -/
structure Subpath where
  first : Point ℝ
  last : Point ℝ
  /-- The points of the surface that the pen has passed. -/
  trace : Set (Point ℝ)

/-- A surface and what is painted on it. -/
structure Canvas where
  /-- The point of the surface that the coordinates of a call stand for. -/
  toSurface : Point ℝ → Point ℝ := id
  saved : List (Point ℝ → Point ℝ) := []
  /-- The path, with the latest subpath first. -/
  path : List Subpath := []
  filled : Set (Point ℝ) := ∅
  /-- The lines along which a pen was drawn, without their width. -/
  stroked : Set (Point ℝ) := ∅

namespace Subpath

/-- The subpath before the pen has moved. -/
def startingAt (p : Point ℝ) : Subpath :=
  ⟨p, p, ∅⟩

/-- The subpath with a straight line to a point. -/
def lineTo (s : Subpath) (p : Point ℝ) : Subpath :=
  ⟨s.first, p, s.trace ∪ segment s.last p⟩

/-- The points inside the subpath, when its ends are joined.  Where the pen has not moved there
are none. -/
def inside (s : Subpath) : Set (Point ℝ) :=
  {p | s.trace.Nonempty ∧ p ∈ enclosed (s.lineTo s.first).trace}

end Subpath

/-- The points of a rectangle, whose size may be negative.  Without area it has none. -/
def rectangle (x y width height : ℝ) : Set (Point ℝ) :=
  {p | (width ≠ 0 ∧ height ≠ 0) ∧
    p.x ∈ Set.uIcc x (x + width) ∧ p.y ∈ Set.uIcc y (y + height)}

/-- The border of a rectangle.  One without width or height is a segment. -/
def rectangleBorder (x y width height : ℝ) : Set (Point ℝ) :=
  {p | (width ≠ 0 ∨ height ≠ 0) ∧
    p.x ∈ Set.uIcc x (x + width) ∧ p.y ∈ Set.uIcc y (y + height) ∧
    (p.x = x ∨ p.x = x + width ∨ p.y = y ∨ p.y = y + height)}

/-- How far an arc from one angle to another runs: clockwise, and at most once around. -/
noncomputable def sweep (start stop : ℝ) : ℝ :=
  if Scalar.turn ≤ stop - start then Scalar.turn else Scalar.remainder (stop - start) Scalar.turn

namespace Canvas

variable (v : Canvas)

/-- The canvas with a line from the pen to a point; the first line of a path only sets the pen. -/
def lineTo (p : Point ℝ) : Canvas :=
  match v.path with
  | [] => { v with path := [.startingAt p] }
  | s :: rest => { v with path := s.lineTo p :: rest }

/-- The canvas with an arc of the curve `onCurve`, and with a line from the pen to its start. -/
def arc (onCurve : ℝ → Point ℝ) (start length : ℝ) : Canvas :=
  let drawn := v.toSurface ∘ onCurve
  let trace := drawn '' Set.Icc start (start + length)
  match v.path with
  | [] => { v with path := [⟨drawn start, drawn (start + length), trace⟩] }
  | s :: rest =>
    let joined := s.lineTo (drawn start)
    { v with path := ⟨s.first, drawn (start + length), joined.trace ∪ trace⟩ :: rest }

/-- The canvas after a call. -/
noncomputable def take : Call ℝ → Canvas
  | .save => { v with saved := v.toSurface :: v.saved }
  | .restore => { v with toSurface := v.saved.headD v.toSurface, saved := v.saved.tail }
  | .translate x y => { v with toSurface := fun p => v.toSurface ⟨p.x + x, p.y + y⟩ }
  | .rotate angle => { v with toSurface := fun p => v.toSurface (p.rotate ⟨0, 0⟩ angle) }
  | .beginPath => { v with path := [] }
  | .closePath =>
    match v.path with
    | [] => v
    | s :: rest => { v with path := .startingAt s.first :: s.lineTo s.first :: rest }
  | .moveTo x y => { v with path := .startingAt (v.toSurface ⟨x, y⟩) :: v.path }
  | .lineTo x y => v.lineTo (v.toSurface ⟨x, y⟩)
  | .ellipse x y radiusX radiusY rotation start stop =>
    v.arc (onEllipse ⟨x, y⟩ radiusX radiusY rotation) start (sweep start stop)
  | .arc x y radius start stop =>
    v.arc (onEllipse ⟨x, y⟩ radius radius 0) start (sweep start stop)
  | .fill => { v with filled := v.filled ∪ ⋃ s ∈ v.path, s.inside }
  | .stroke => { v with stroked := v.stroked ∪ ⋃ s ∈ v.path, s.trace }
  | .fillRect x y width height =>
    { v with filled := v.filled ∪ v.toSurface '' rectangle x y width height }
  | .strokeRect x y width height =>
    { v with stroked := v.stroked ∪ v.toSurface '' rectangleBorder x y width height }
  | .clearRect x y width height =>
    let cleared := v.toSurface '' rectangle x y width height
    { v with filled := v.filled \ cleared, stroked := v.stroked \ cleared }
  | .setFillStyle _ | .setStrokeStyle _ | .setLineWidth _ | .setLineDash _ => v

end Canvas

/-- The canvas that calls leave behind, from an empty one. -/
noncomputable def painted (cs : List (Call ℝ)) : Canvas :=
  cs.foldl Canvas.take {}

/-! ## Subpaths and arcs -/

namespace Subpath

@[simp] lemma inside_startingAt (p : Point ℝ) : (startingAt p).inside = ∅ := by
  ext q
  simp [inside, startingAt]

/-- A curve that ends where it has begun encloses what is inside. -/
lemma inside_of_closed {s : Subpath} (hlast : s.last = s.first) (hfirst : s.first ∈ s.trace) :
    s.inside = enclosed s.trace := by
  have htrace : (s.lineTo s.first).trace = s.trace := by
    rw [lineTo, hlast, segment_self, Set.union_eq_left, Set.singleton_subset_iff]
    exact hfirst
  ext p
  rw [inside, htrace]
  exact and_iff_right ⟨_, hfirst⟩

lemma trace_line (p q : Point ℝ) : ((startingAt p).lineTo q).trace = segment p q :=
  Set.empty_union _

/-- Three lines that come back to their start enclose what is inside of them. -/
lemma inside_triangle (a b c : Point ℝ) :
    ((((startingAt a).lineTo b).lineTo c).lineTo a).inside =
      enclosed (segment a b ∪ segment b c ∪ segment c a) := by
  have htrace : ((((startingAt a).lineTo b).lineTo c).lineTo a).trace =
      segment a b ∪ segment b c ∪ segment c a := by
    simp only [lineTo, startingAt, Set.empty_union]
  rw [← htrace]
  refine inside_of_closed rfl ?_
  rw [htrace]
  exact .inl (.inl (left_mem_segment a b))

/-- A full turn of an ellipse encloses what is inside of it. -/
lemma inside_fullTurn (c : Point ℝ) (rx ry θ : ℝ) :
    (⟨onEllipse c rx ry θ 0, onEllipse c rx ry θ (2 * Real.pi),
      onEllipse c rx ry θ '' Set.Icc 0 (2 * Real.pi)⟩ : Subpath).inside =
        enclosed (onEllipse c rx ry θ '' Set.Icc 0 (2 * Real.pi)) := by
  refine inside_of_closed ?_ ⟨0, ⟨le_rfl, Real.two_pi_pos.le⟩, rfl⟩
  simp [onEllipse]

end Subpath

@[simp] lemma sweep_two_pi : sweep 0 (2 * Real.pi) = 2 * Real.pi :=
  if_pos (sub_zero (2 * Real.pi)).ge

/-! ## Rectangles -/

lemma mem_rectangle_iff {x y width height : ℝ} (hwidth : 0 < width) (hheight : 0 < height)
    (p : Point ℝ) : p ∈ rectangle x y width height ↔
      (x ≤ p.x ∧ p.x ≤ x + width) ∧ y ≤ p.y ∧ p.y ≤ y + height := by
  have hx : x ≤ x + width := le_add_of_nonneg_right hwidth.le
  have hy : y ≤ y + height := le_add_of_nonneg_right hheight.le
  rw [rectangle, Set.mem_ofPred_eq, Set.uIcc_of_le hx, Set.uIcc_of_le hy]
  exact and_iff_right ⟨hwidth.ne', hheight.ne'⟩

/-- The points of a box. -/
def Box.points (b : Box ℝ) : Set (Point ℝ) :=
  rectangle b.x b.y b.width b.height

lemma Box.mem_points_iff {b : Box ℝ} (hwidth : 0 < b.width) (hheight : 0 < b.height)
    (p : Point ℝ) : p ∈ b.points ↔ b.contains p = true :=
  (mem_rectangle_iff hwidth hheight p).trans (b.contains_iff p).symm

/-- Boxes that are filled one after the other, each with its border, are all painted. -/
lemma filled_boxes {β : Type} (box : β → Box ℝ) (l : List β) (v : Canvas) :
    ((l.flatMap fun b => [Call.fillRect (box b).x (box b).y (box b).width (box b).height,
      Call.strokeRect (box b).x (box b).y (box b).width (box b).height]).foldl
        Canvas.take v).filled = v.filled ∪ ⋃ b ∈ l, v.toSurface '' (box b).points := by
  induction l generalizing v with
  | nil => simp
  | cons b rest ih =>
    rw [List.flatMap_cons, List.foldl_append, ih]
    simp [Canvas.take, Box.points, Set.union_assoc]

end Atelier
