/-
Axis-aligned boxes.

A box that is being dragged out can have a negative width or height; `Box.normalized` is the
same area with its origin at the smallest corner.
-/
import Atelier.Geometry.Point

namespace Atelier

/-- An axis-aligned box. -/
structure Box (α : Type) where
  x : α
  y : α
  width : α
  height : α
deriving DecidableEq, BEq, Repr

namespace Box

variable {α : Type} [Scalar α]

/-- The box between two opposite corners, in either order. -/
def between (a b : Point α) : Box α where
  x := Scalar.least a.x b.x
  y := Scalar.least a.y b.y
  width := Scalar.abs (b.x - a.x)
  height := Scalar.abs (b.y - a.y)

/-- The same area with a size that is not negative. -/
def normalized (b : Box α) : Box α :=
  between ⟨b.x, b.y⟩ ⟨b.x + b.width, b.y + b.height⟩

/-- The point in the middle. -/
def center (b : Box α) : Point α :=
  ⟨b.x + Scalar.half b.width, b.y + Scalar.half b.height⟩

/-- The position of the right edge. -/
def right (b : Box α) : α := b.x + b.width

/-- The position of the bottom edge. -/
def bottom (b : Box α) : α := b.y + b.height

/-- Whether a point lies in a box whose size is not negative, its edges included. -/
def contains (b : Box α) (p : Point α) : Bool :=
  p.x ≥ b.x && p.x ≤ b.right && p.y ≥ b.y && p.y ≤ b.bottom

/-- Whether a point lies in a box turned about its center.  The point is turned back into the
frame of the box. -/
def containsRotated (b : Box α) (rotation : α) (p : Point α) : Bool :=
  let b := b.normalized
  b.contains (p.rotate b.center (-rotation))

end Box

end Atelier
