/-
The editor: a sheet, a selection, and the gesture between a press and its release.

Each handler takes the state and one event, and gives the next state with the actions the host
has to carry out.  A gesture remembers what it changes of its shape, so that Escape undoes it
and a release reports a change only if there is one.
-/
import Atelier.Drawing.Scene
import Atelier.Editor.Input

namespace Atelier

/-- What the host has to do after an event. -/
inductive Action (α : Type) where
  /-- A shape was dragged out and is now on the sheet. -/
  | created (s : Shape α)
  /-- A gesture has changed a shape. -/
  | updated (s : Shape α)
  | deleted (id : ShapeId)
  | setCursor (cursor : String)
  /-- The scene has to be drawn again. -/
  | render
deriving DecidableEq, BEq

/-- What the pointer is doing between a press and its release. -/
inductive Gesture (α : Type) where
  | idle
  /-- Dragging out a shape. -/
  | drawing (kind : ShapeKind) (anchor current : Point α)
  /-- Moving a shape that stood at `(x, y)`; the pointer was last at `last`. -/
  | dragging (id : ShapeId) (last : Point α) (x y : α)
  /-- Resizing a shape that had the box `frame`. -/
  | resizing (id : ShapeId) (anchor : Anchor) (frame : Box α)
  /-- Turning a shape that had the rotation `rotation`; the pointer started at the angle
  `start` around `center`. -/
  | rotating (id : ShapeId) (center : Point α) (start rotation : α)
deriving DecidableEq, BEq

namespace Gesture

variable {α : Type}

/-- Whether there is no gesture. -/
def isIdle : Gesture α → Bool
  | idle => true
  | _ => false

/-- The shape that the gesture changes. -/
def target? : Gesture α → Option ShapeId
  | dragging id .. | resizing id .. | rotating id .. => some id
  | _ => none

/-- The shape as the gesture has it once the pointer is at `p`. -/
def apply [Scalar α] (g : Gesture α) (p : Point α) (s : Shape α) : Shape α :=
  match g with
  | dragging _ last .. => s.translate (p.x - last.x) (p.y - last.y)
  | resizing _ anchor frame => (s.withFrame frame).resize anchor p
  | rotating _ center start rotation => s.setRotation (rotation + center.angleFrom p - start)
  | _ => s

/-- The gesture once the pointer is at `p`. -/
def follow (g : Gesture α) (p : Point α) : Gesture α :=
  match g with
  | drawing kind anchor _ => drawing kind anchor p
  | dragging id _ x y => dragging id p x y
  | g => g

/-- The shape as it was when the gesture started. -/
def restore (g : Gesture α) (s : Shape α) : Shape α :=
  match g with
  | dragging _ _ x y => { s with x, y }
  | resizing _ _ frame => s.withFrame frame
  | rotating _ _ _ rotation => { s with rotation }
  | _ => s

/-- Whether a shape differs from what it was when the gesture started. -/
def hasChanged [BEq α] (g : Gesture α) (s : Shape α) : Bool :=
  match g with
  | dragging _ _ x y => s.x != x || s.y != y
  | resizing _ _ frame =>
    s.x != frame.x || s.y != frame.y || s.width != frame.width || s.height != frame.height
  | rotating _ _ _ rotation => s.rotation != rotation
  | _ => false

end Gesture

/-- The state of an editor. -/
structure Editor (α : Type) where
  sheet : Sheet α
  tool : Tool
  selected : Option ShapeId
  gesture : Gesture α
  width : α
  height : α
deriving DecidableEq, BEq

namespace Editor

variable {α : Type}

/-- An editor without shapes for a surface of a given size. -/
def ofSize (width height : α) : Editor α :=
  ⟨.empty, .select, none, .idle, width, height⟩

/-- An editor without shapes for a surface of 500 by 500 pixels. -/
def new [Scalar α] : Editor α :=
  ofSize (Scalar.ofNat 500) (Scalar.ofNat 500)

/-- The editor with another sheet, without a selection or a gesture. -/
def load (e : Editor α) (sheet : Sheet α) : Editor α :=
  { e with sheet, selected := none, gesture := .idle }

/-- The editor with another tool. -/
def setTool (e : Editor α) (tool : Tool) : Editor α × List (Action α) :=
  ({ e with tool }, [.setCursor tool.cursor])

/-- The shape that is being dragged out, with its signed size.  It has no identifier of its own
yet and borrows the given one. -/
def preview [Scalar α] (e : Editor α) (id : ShapeId) : Option (Shape α) :=
  match e.gesture with
  | .drawing kind anchor current => some (.ofDrag id kind anchor current)
  | _ => none

/-! ## Events -/

/-- The editor with a gesture begun on a part of a shape. -/
def grab [Scalar α] (e : Editor α) (hit : Hit) (p : Point α) : Editor α :=
  match e.sheet.get? hit.id with
  | none => e
  | some s =>
    match hit.grip with
    | .resize anchor => { e with gesture := .resizing hit.id anchor s.frame }
    | .rotate =>
      { e with gesture := .rotating hit.id s.center (s.center.angleFrom p) s.rotation }
    | .body => { e with selected := some hit.id, gesture := .dragging hit.id p s.x s.y }

/-- A button is pressed.  The primary button starts a gesture, if there is none: it drags out a
shape, takes hold of what is under the pointer, or clears the selection. -/
def press [Scalar α] (e : Editor α) (p : Point α) (button : Button) :
    Editor α × List (Action α) :=
  if button ≠ .primary || !e.gesture.isIdle then (e, [])
  else
    match e.tool.kind? with
    | some kind => ({ e with gesture := .drawing kind p p }, [.render])
    | none =>
      match e.sheet.hit? e.selected p with
      | some hit => (e.grab hit p, [.render])
      | none => ({ e with selected := none }, [.render])

/-- The editor once its gesture has followed the pointer, and whether it did.  A gesture whose
shape is gone ends, and with it the selection. -/
def follow [Scalar α] (e : Editor α) (p : Point α) : Editor α × Bool :=
  match e.gesture with
  | .idle => (e, false)
  | .drawing .. => ({ e with gesture := e.gesture.follow p }, true)
  | .dragging id .. | .resizing id .. | .rotating id .. =>
    match e.sheet.get? id with
    | some _ =>
      ({ e with sheet := e.sheet.modify id (e.gesture.apply p), gesture := e.gesture.follow p },
        true)
    | none => ({ e with gesture := .idle, selected := none }, false)

/-- The pointer moves. -/
def move [Scalar α] (e : Editor α) (p : Point α) : Editor α × List (Action α) :=
  let (e, followed) := e.follow p
  (e, if followed then [.render] else [])

/-- The end of the gesture: a shape that was dragged out goes on the sheet with the given
identifier, any other gesture reports its shape if it has changed. -/
def commit [Scalar α] (e : Editor α) (fresh : ShapeId) : Editor α × List (Action α) :=
  match e.gesture with
  | .idle => (e, [])
  | .drawing kind anchor current =>
    let s := (Shape.ofDrag fresh kind anchor current).normalize
    ({ e with sheet := e.sheet.add s, selected := none, gesture := .idle },
      [.created s, .render])
  | .dragging id .. | .resizing id .. | .rotating id .. =>
    let actions :=
      match e.sheet.get? id with
      | some s => if e.gesture.hasChanged s then [.updated s, .render] else []
      | none => []
    ({ e with gesture := .idle }, actions)

/-- A button is released.  The primary button ends the gesture where the pointer is. -/
def release [Scalar α] (e : Editor α) (p : Point α) (button : Button) (fresh : ShapeId) :
    Editor α × List (Action α) :=
  if button ≠ .primary then (e, []) else (e.follow p).1.commit fresh

/-- The editor without its gesture, and the shape as it was before. -/
def cancel (e : Editor α) : Editor α :=
  match e.gesture.target? with
  | some id => { e with sheet := e.sheet.modify id e.gesture.restore, gesture := .idle }
  | none => { e with gesture := .idle }

/-- A key is pressed.  Escape cancels the gesture and clears the selection; between gestures
Delete and Backspace remove the selected shape. -/
def pressKey (e : Editor α) (key : Key) : Editor α × List (Action α) :=
  if key.isEscape then ({ e.cancel with selected := none }, [.render])
  else if key.isDelete && e.gesture.isIdle then
    match e.selected with
    | none => (e, [])
    | some id =>
      match e.sheet.get? id with
      | some _ =>
        ({ e with sheet := e.sheet.remove id, selected := none }, [.deleted id, .render])
      | none => ({ e with selected := none }, [])
  else (e, [])

/-! ## Painting -/

/-- Draws the scene.  No identifier is drawn, so any will do for the shape that is being
dragged out. -/
def render [Scalar α] {m : Type → Type} [Monad m] [Surface α m] (e : Editor α) : m Unit :=
  drawScene e.sheet e.selected (e.preview (.ofNat 0)) e.width e.height

end Editor

end Atelier
