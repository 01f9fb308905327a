/-
Sheets: the shapes of a drawing from bottom to top.

Identifiers are not required to be different.  A shape is addressed by the first, that is the
lowest, with its identifier.
-/
import Atelier.Shape.Outline
import Atelier.Shape.Transform

namespace Atelier

/-- Shapes from bottom to top. -/
structure Sheet (α : Type) where
  shapes : List (Shape α)
deriving DecidableEq, BEq

namespace Sheet

variable {α : Type}

/-- The sheet without shapes. -/
def empty : Sheet α :=
  ⟨[]⟩

/-- The sheet with a shape on top. -/
def add (sheet : Sheet α) (s : Shape α) : Sheet α :=
  ⟨sheet.shapes ++ [s]⟩

/-- The first shape with an identifier. -/
def get? (sheet : Sheet α) (id : ShapeId) : Option (Shape α) :=
  sheet.shapes.find? (·.id = id)

/-- The shapes with the first of an identifier changed. -/
def modifyFirst (id : ShapeId) (f : Shape α → Shape α) : List (Shape α) → List (Shape α)
  | [] => []
  | s :: rest => if s.id = id then f s :: rest else s :: modifyFirst id f rest

/-- The sheet with the first shape of an identifier changed. -/
def modify (sheet : Sheet α) (id : ShapeId) (f : Shape α → Shape α) : Sheet α :=
  ⟨modifyFirst id f sheet.shapes⟩

/-- The sheet without the first shape of an identifier. -/
def remove (sheet : Sheet α) (id : ShapeId) : Sheet α :=
  ⟨sheet.shapes.eraseP (·.id = id)⟩

/-- The topmost shape that a point lies on. -/
def topmostAt? [Scalar α] (sheet : Sheet α) (p : Point α) : Option (Shape α) :=
  sheet.shapes.reverse.find? (·.contains p)

end Sheet

/-! ## What is under a pointer -/

/-- A part of a shape that a pointer can take hold of. -/
inductive Grip where
  | body
  | resize (anchor : Anchor)
  | rotate
deriving DecidableEq, Repr

/-- A shape under a pointer, and the part of it. -/
structure Hit where
  id : ShapeId
  grip : Grip
deriving DecidableEq, Repr

/-- The handle of a shape under a point, a resize handle before the rotation handle. -/
def Shape.grip? {α : Type} [Scalar α] (s : Shape α) (p : Point α) : Option Grip :=
  match s.handleAt? p with
  | some anchor => some (.resize anchor)
  | none => if s.isOverRotationHandle p then some .rotate else none

/-- What is under a point: a handle of the selected shape, or else the topmost body. -/
def Sheet.hit? {α : Type} [Scalar α] (sheet : Sheet α) (selected : Option ShapeId)
    (p : Point α) : Option Hit :=
  let handle := do
    let s ← sheet.get? (← selected)
    let grip ← s.grip? p
    some ⟨s.id, grip⟩
  handle <|> (sheet.topmostAt? p).map fun s => ⟨s.id, .body⟩

end Atelier
