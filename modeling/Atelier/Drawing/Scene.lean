/-
Drawing shapes, the marks of the selection, and the whole scene.

A scene is drawn anew each time: the background, the shapes from bottom to top, the marks of
the selected shape, and on top the shape that is being dragged out.
-/
import Atelier.Drawing.Surface
import Atelier.Shape.Sheet

namespace Atelier

section

variable {α : Type} [Scalar α] {m : Type → Type} [Monad m] [Surface α m]

open Surface

/-- The color behind the shapes. -/
def backgroundColor : String := "#ffffff"

/-- The color of the marks of a selection. -/
def selectionColor : String := "#1E90FF"

/-- The color inside handles. -/
def handleColor : String := "#ffffff"

/-- The length of a dash of the selection's outline, in pixels. -/
def selectionDash : α := Scalar.ofNat 4

namespace Shape

/-- Moves the origin to the middle of the shape and turns the axes with it. -/
def enterFrame (s : Shape α) : m Unit := do
  call (.translate s.center.x s.center.y)
  call (.rotate s.rotation)

/-- Draws the primitive around the origin. -/
def drawPrimitive (s : Shape α) : m Unit := do
  let b := s.bounds
  let hw := Scalar.half b.width
  let hh := Scalar.half b.height
  match s.kind with
  | .rectangle =>
    call (.fillRect (-hw) (-hh) b.width b.height)
    call (.strokeRect (-hw) (-hh) b.width b.height)
  | .ellipse =>
    call .beginPath
    call (.ellipse Scalar.zero Scalar.zero hw hh Scalar.zero Scalar.zero Scalar.turn)
    call .fill
    call .stroke
  | .triangle =>
    call .beginPath
    call (.moveTo Scalar.zero (-hh))
    call (.lineTo hw hh)
    call (.lineTo (-hw) hh)
    call .closePath
    call .fill
    call .stroke
  | .line =>
    call .beginPath
    match s.slope with
    | .descending =>
      call (.moveTo (-hw) (-hh))
      call (.lineTo hw hh)
    | .ascending =>
      call (.moveTo (-hw) hh)
      call (.lineTo hw (-hh))
    call .stroke

/-- Draws a shape. -/
def draw (s : Shape α) : m Unit := do
  call .save
  s.enterFrame
  call (.setFillStyle s.paint.fill)
  call (.setStrokeStyle s.paint.stroke)
  call (.setLineWidth s.paint.lineWidth)
  s.drawPrimitive
  call .restore

/-- Draws the dashed outline of a selected shape's box. -/
def drawSelection (s : Shape α) : m Unit := do
  let b := s.bounds
  call .save
  s.enterFrame
  call (.setStrokeStyle selectionColor)
  call (.setLineWidth Scalar.one)
  call (.setLineDash [selectionDash, selectionDash])
  call (.strokeRect (Scalar.half (-b.width)) (Scalar.half (-b.height)) b.width b.height)
  call (.setLineDash [])
  call .restore

/-- Draws the resize handles. -/
def drawHandles (s : Shape α) : m Unit := do
  call .save
  call (.setFillStyle handleColor)
  call (.setStrokeStyle selectionColor)
  call (.setLineWidth Scalar.one)
  Anchor.all.forM fun anchor => do
    let b := handleBox (s.rotatedAnchor anchor)
    call (.fillRect b.x b.y b.width b.height)
    call (.strokeRect b.x b.y b.width b.height)
  call .restore

/-- Draws the rotation handle and its stem. -/
def drawRotationHandle (s : Shape α) : m Unit := do
  let top := s.rotatedAnchor .north
  let knob := s.rotationHandle
  call .save
  call (.setStrokeStyle selectionColor)
  call (.setLineWidth Scalar.one)
  call .beginPath
  call (.moveTo top.x top.y)
  call (.lineTo knob.x knob.y)
  call .stroke
  call .beginPath
  call (.arc knob.x knob.y rotationRadius Scalar.zero Scalar.turn)
  call (.setFillStyle handleColor)
  call .fill
  call .stroke
  call .restore

/-- Draws the marks of a selected shape. -/
def drawMarks (s : Shape α) : m Unit := do
  s.drawSelection
  s.drawHandles
  s.drawRotationHandle

end Shape

/-- Draws a scene: the sheet, the marks of the selected shape, and the shape that is being
dragged out. -/
def drawScene (sheet : Sheet α) (selected : Option ShapeId) (preview : Option (Shape α))
    (width height : α) : m Unit := do
  call (.clearRect Scalar.zero Scalar.zero width height)
  call (.setFillStyle backgroundColor)
  call (.fillRect Scalar.zero Scalar.zero width height)
  sheet.shapes.forM Shape.draw
  (selected.bind sheet.get?).forM Shape.drawMarks
  preview.forM Shape.draw

end

end Atelier
