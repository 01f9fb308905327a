/-
What the user of an editor does: tools, mouse buttons and keys.
-/
import Atelier.Shape.Basic

namespace Atelier

/-- What a press on the surface does. -/
inductive Tool where
  /-- Select and change shapes. -/
  | select
  /-- Drag out a shape. -/
  | draw (kind : ShapeKind)
deriving DecidableEq, Repr

namespace Tool

/-- The kind of shape that the tool draws. -/
def kind? : Tool → Option ShapeKind
  | select => none
  | draw kind => some kind

/-- The cursor shown over the surface. -/
def cursor : Tool → String
  | select => "default"
  | draw _ => "crosshair"

/-- The tool of a name: `select`, or the name of a kind. -/
def ofName? (name : String) : Option Tool :=
  if name = "select" then some select else (ShapeKind.ofName? name).map draw

end Tool

/-- A button of the mouse. -/
inductive Button where
  | primary
  | middle
  | secondary
deriving DecidableEq, Repr

/-- A key, by the name that a keyboard event gives it. -/
structure Key where
  name : String
deriving DecidableEq, Repr

namespace Key

/-- Whether the key removes the selected shape. -/
def isDelete (key : Key) : Bool :=
  key.name = "Delete" || key.name = "Backspace"

/-- Whether the key cancels a gesture. -/
def isEscape (key : Key) : Bool :=
  key.name = "Escape"

end Key

end Atelier
