/-
The outline of a shape on the surface, and the points that lie on the shape.
-/
import Atelier.Shape.Basic

namespace Atelier.Shape

variable {α : Type} [Scalar α]

/-- The farthest a pointer may be from a line and still be on it, in pixels. -/
def lineTolerance : α := Scalar.ofNat 5

/-- The ends of a line on the surface. -/
def lineEnds (s : Shape α) : Point α × Point α :=
  let b := s.bounds
  let (start, stop) : Point α × Point α :=
    match s.slope with
    | .descending => (⟨b.x, b.y⟩, ⟨b.right, b.bottom⟩)
    | .ascending => (⟨b.x, b.bottom⟩, ⟨b.right, b.y⟩)
  (start.rotate b.center s.rotation, stop.rotate b.center s.rotation)

/-- The corners of a triangle on the surface: the apex, and the base from right to left. -/
def triangleCorners (s : Shape α) : Point α × Point α × Point α :=
  let b := s.bounds
  let turned (p : Point α) : Point α := p.rotate b.center s.rotation
  (turned ⟨b.x + Scalar.half b.width, b.y⟩, turned ⟨b.right, b.bottom⟩, turned ⟨b.x, b.bottom⟩)

/-- Whether a point lies on an ellipse; on one without area no point does. -/
def ellipseContains (s : Shape α) (p : Point α) : Bool :=
  let b := s.bounds
  let rx := Scalar.half b.width
  let ry := Scalar.half b.height
  if rx ≤ Scalar.zero || ry ≤ Scalar.zero then false
  else
    let c := b.center
    let local' := p.rotate c (-s.rotation)
    let nx := (local'.x - c.x) / rx
    let ny := (local'.y - c.y) / ry
    nx * nx + ny * ny ≤ Scalar.one

/-- Whether a point lies on a triangle: on the same side of all three edges.  On a triangle
without area no point does. -/
def triangleContains (s : Shape α) (p : Point α) : Bool :=
  let b := s.bounds
  if b.width ≤ Scalar.zero || b.height ≤ Scalar.zero then false
  else
    let (v0, v1, v2) := s.triangleCorners
    let d1 := p.sideOf v0 v1
    let d2 := p.sideOf v1 v2
    let d3 := p.sideOf v2 v0
    let anyLeft := d1 < Scalar.zero || d2 < Scalar.zero || d3 < Scalar.zero
    let anyRight := d1 > Scalar.zero || d2 > Scalar.zero || d3 > Scalar.zero
    !(anyLeft && anyRight)

/-- Whether a point lies on the shape. -/
def contains (s : Shape α) (p : Point α) : Bool :=
  match s.kind with
  | .rectangle => s.bounds.containsRotated s.rotation p
  | .ellipse => s.ellipseContains p
  | .triangle => s.triangleContains p
  | .line => p.distanceToSegment s.lineEnds.1 s.lineEnds.2 ≤ lineTolerance

end Atelier.Shape
