/-
Handles: the squares at the anchors by which a shape is resized, and the disc above it by
which it is turned.
-/
import Atelier.Shape.Anchor
import Atelier.Shape.Basic

namespace Atelier.Shape

variable {α : Type} [Scalar α]

/-- The side of a resize handle, in pixels. -/
def handleSize : α := Scalar.ofNat 10

/-- The distance from the top edge to the rotation handle, in pixels. -/
def rotationOffset : α := Scalar.ofNat 20

/-- The radius of the rotation handle, in pixels. -/
def rotationRadius : α := Scalar.ofNat 6

/-- The position of an anchor before the rotation. -/
def anchorPosition (s : Shape α) (anchor : Anchor) : Point α :=
  let b := s.bounds
  let middleX := b.x + Scalar.half b.width
  let middleY := b.y + Scalar.half b.height
  match anchor with
  | .northWest => ⟨b.x, b.y⟩
  | .north => ⟨middleX, b.y⟩
  | .northEast => ⟨b.right, b.y⟩
  | .east => ⟨b.right, middleY⟩
  | .southEast => ⟨b.right, b.bottom⟩
  | .south => ⟨middleX, b.bottom⟩
  | .southWest => ⟨b.x, b.bottom⟩
  | .west => ⟨b.x, middleY⟩

/-- The position of an anchor on the surface. -/
def rotatedAnchor (s : Shape α) (anchor : Anchor) : Point α :=
  (s.anchorPosition anchor).rotate s.center s.rotation

/-- The square of a resize handle around its middle.  It does not turn with the shape. -/
def handleBox (middle : Point α) : Box α :=
  let side : α := handleSize
  ⟨middle.x - Scalar.half side, middle.y - Scalar.half side, side, side⟩

/-- The first anchor whose handle is under a point. -/
def handleAt? (s : Shape α) (p : Point α) : Option Anchor :=
  Anchor.all.find? fun anchor =>
    (handleBox (s.rotatedAnchor anchor)).containsRotated Scalar.zero p

/-- Whether a point is over one of the resize handles. -/
def isOverHandle (s : Shape α) (p : Point α) : Bool :=
  (s.handleAt? p).isSome

/-- The middle of the rotation handle, which turns with the shape. -/
def rotationHandle (s : Shape α) : Point α :=
  let b := s.bounds
  Point.rotate ⟨b.x + Scalar.half b.width, b.y - rotationOffset⟩ b.center s.rotation

/-- Whether a point is over the rotation handle. -/
def isOverRotationHandle (s : Shape α) (p : Point α) : Bool :=
  p.distance s.rotationHandle ≤ rotationRadius

end Atelier.Shape
