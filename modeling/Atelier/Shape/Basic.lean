/-
Shapes: a primitive in a bounding box, turned about the middle of the box, with its paint.

The box is the frame before the rotation.  While a shape is being dragged out its size can be
negative; `Shape.normalize` mends that.
-/
import Atelier.Geometry.Box
import Atelier.Shape.Id

namespace Atelier

/-- Which primitive a shape is. -/
inductive ShapeKind where
  /-- The box itself. -/
  | rectangle
  /-- The ellipse that touches the four edges of the box. -/
  | ellipse
  /-- The triangle with its apex in the middle of the top edge and the bottom edge as base. -/
  | triangle
  /-- A segment along a diagonal of the box. -/
  | line
deriving DecidableEq, Repr

namespace ShapeKind

/-- The name in snapshots. -/
def name : ShapeKind → String
  | rectangle => "rectangle"
  | ellipse => "ellipse"
  | triangle => "triangle"
  | line => "line"

/-- The kind of a name. -/
def ofName? : String → Option ShapeKind
  | "rectangle" => some rectangle
  | "ellipse" => some ellipse
  | "triangle" => some triangle
  | "line" => some line
  | _ => none

end ShapeKind

/-- Which diagonal of its box a line follows. -/
inductive Slope where
  /-- From the top left to the bottom right. -/
  | descending
  /-- From the bottom left to the top right. -/
  | ascending
deriving DecidableEq, Repr

namespace Slope

/-- The name in snapshots. -/
def name : Slope → String
  | descending => "descending"
  | ascending => "ascending"

/-- The slope of a name. -/
def ofName? : String → Option Slope
  | "descending" => some descending
  | "ascending" => some ascending
  | _ => none

/-- The slope of the segment between two points. -/
def between {α : Type} [Scalar α] (start stop : Point α) : Slope :=
  if (stop.x - start.x) * (stop.y - start.y) < Scalar.zero then ascending else descending

end Slope

/-- How a shape is painted. -/
structure Paint (α : Type) where
  /-- The color inside, in the notation of style sheets. -/
  fill : String
  /-- The color of the outline. -/
  stroke : String
  lineWidth : α
deriving DecidableEq, BEq

/-- An outline of two pixels in black around nothing. -/
def Paint.default {α : Type} [Scalar α] : Paint α :=
  ⟨"transparent", "#000000", Scalar.ofNat 2⟩

/-- A shape. -/
structure Shape (α : Type) where
  id : ShapeId
  kind : ShapeKind
  x : α
  y : α
  /-- Negative only while the shape is being dragged out, and so the height. -/
  width : α
  height : α
  /-- The angle by which the shape is turned about the middle of its box. -/
  rotation : α
  /-- The diagonal of a line.  Other kinds have no use for it. -/
  slope : Slope
  paint : Paint α
deriving DecidableEq, BEq

namespace Shape

variable {α : Type} [Scalar α]

/-- The shape that is dragged out from one point to another, with a signed size. -/
def ofDrag (id : ShapeId) (kind : ShapeKind) (anchor current : Point α) : Shape α where
  id := id
  kind := kind
  x := anchor.x
  y := anchor.y
  width := current.x - anchor.x
  height := current.y - anchor.y
  rotation := Scalar.zero
  slope := if kind = .line then Slope.between anchor current else .descending
  paint := Paint.default

/-- The box as it is stored, with its signed size. -/
def frame (s : Shape α) : Box α :=
  ⟨s.x, s.y, s.width, s.height⟩

/-- The shape in another box. -/
def withFrame (s : Shape α) (b : Box α) : Shape α :=
  { s with x := b.x, y := b.y, width := b.width, height := b.height }

/-- The box with a size that is not negative. -/
def bounds (s : Shape α) : Box α :=
  s.frame.normalized

/-- The point that the shape is turned about. -/
def center (s : Shape α) : Point α :=
  s.bounds.center

/-- Whether the size is not negative. -/
def isNormalized (s : Shape α) : Bool :=
  s.width ≥ Scalar.zero && s.height ≥ Scalar.zero

/-- The same shape with a size that is not negative and a rotation within one turn. -/
def normalize (s : Shape α) : Shape α :=
  { s.withFrame s.bounds with rotation := wrapAngle s.rotation }

end Shape

end Atelier
