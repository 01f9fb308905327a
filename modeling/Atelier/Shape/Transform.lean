/-
Moving, resizing and turning shapes.
-/
import Atelier.Shape.Handles

namespace Atelier.Shape

variable {α : Type} [Scalar α]

/-- The shape moved by a vector. -/
def translate (s : Shape α) (dx dy : α) : Shape α :=
  { s with x := s.x + dx, y := s.y + dy }

/-- The box with the edges that an anchor names moved to a point.  An edge stops at the one
across from it. -/
def dragEdges (b : Box α) (anchor : Anchor) (p : Point α) : Box α :=
  let left := if anchor.movesLeft then Scalar.least p.x b.right else b.x
  let right := if anchor.movesRight then Scalar.greatest p.x left else b.right
  let top := if anchor.movesTop then Scalar.least p.y b.bottom else b.y
  let bottom := if anchor.movesBottom then Scalar.greatest p.y top else b.bottom
  ⟨left, top, right - left, bottom - top⟩

/-- The shape with the handle at an anchor dragged to a point.  The point is turned back into
the frame of the shape, where the edges move to it.  A rotated shape is then moved so that the
opposite anchor stays where it was on the surface. -/
def resize (s : Shape α) (anchor : Anchor) (p : Point α) : Shape α :=
  let b := s.bounds
  let fixed := anchor.opposite
  let before := (s.anchorPosition fixed).rotate b.center s.rotation
  let resized := dragEdges b anchor (p.rotate b.center (-s.rotation))
  let s := s.withFrame resized
  if s.rotation == Scalar.zero then s
  else
    let after := (s.anchorPosition fixed).rotate resized.center s.rotation
    s.translate (before.x - after.x) (before.y - after.y)

/-- The shape turned to an angle. -/
def setRotation (s : Shape α) (angle : α) : Shape α :=
  { s with rotation := wrapAngle angle }

/-- The shape turned by an angle. -/
def rotate (s : Shape α) (delta : α) : Shape α :=
  s.setRotation (s.rotation + delta)

end Atelier.Shape
