/-
Points of the surface, angles, and segments.

Coordinates are in pixels with the y axis pointing down, and a positive angle turns clockwise
on the screen.
-/
import Atelier.Geometry.Scalar

namespace Atelier

/-- A point of the surface. -/
structure Point (α : Type) where
  x : α
  y : α
deriving DecidableEq, BEq, Repr

/-! ## Angles -/

/-- An angle wrapped into the range from zero up to a full turn.  The remainder of a tiny
negative angle can round up to the full turn itself, which is the angle zero. -/
def wrapAngle {α : Type} [Scalar α] (angle : α) : α :=
  let wrapped := Scalar.remainder angle Scalar.turn
  if wrapped ≥ Scalar.turn then Scalar.zero else wrapped

namespace Point

variable {α : Type} [Scalar α]

/-- The distance between two points. -/
def distance (p q : Point α) : α :=
  Scalar.hypot (p.x - q.x) (p.y - q.y)

/-- A point turned about a center. -/
def rotate (p center : Point α) (angle : α) : Point α :=
  let s := Scalar.sin angle
  let c := Scalar.cos angle
  let dx := p.x - center.x
  let dy := p.y - center.y
  ⟨center.x + dx * c - dy * s, center.y + dx * s + dy * c⟩

/-- The angle of a point around a center. -/
def angleFrom (center p : Point α) : α :=
  Scalar.atan2 (p.y - center.y) (p.x - center.x)

/-! ## Segments -/

/-- The distance from a point to the segment between `a` and `b`: to the point of the line
nearest to it, held between the ends. -/
def distanceToSegment (p a b : Point α) : α :=
  let dx := b.x - a.x
  let dy := b.y - a.y
  let lengthSquared := dx * dx + dy * dy
  if lengthSquared == Scalar.zero then p.distance a
  else
    let t := Scalar.clampUnit (((p.x - a.x) * dx + (p.y - a.y) * dy) / lengthSquared)
    p.distance ⟨a.x + t * dx, a.y + t * dy⟩

/-- On which side of the directed line from `a` to `b` a point lies, by the sign. -/
def sideOf (p a b : Point α) : α :=
  (p.x - b.x) * (a.y - b.y) - (a.x - b.x) * (p.y - b.y)

end Point

end Atelier
