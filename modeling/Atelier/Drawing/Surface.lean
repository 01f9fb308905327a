/-
Drawing surfaces.

A surface takes one `Call` after the other.  Some calls can fail, and a drawing stops at the
first that does.  A `Recorder` is a surface that keeps the calls it was given and fails on
demand.
-/

namespace Atelier

/-- A call to a surface. -/
inductive Call (α : Type) where
  | save
  | restore
  | translate (x y : α)
  | rotate (angle : α)
  | beginPath
  | closePath
  | moveTo (x y : α)
  | lineTo (x y : α)
  /-- An ellipse around a center, turned by `rotation`, from one angle to another. -/
  | ellipse (x y radiusX radiusY rotation start stop : α)
  /-- An arc of a circle around a center, from one angle to another. -/
  | arc (x y radius start stop : α)
  | fill
  | stroke
  | fillRect (x y width height : α)
  | strokeRect (x y width height : α)
  | clearRect (x y width height : α)
  | setFillStyle (color : String)
  | setStrokeStyle (color : String)
  | setLineWidth (width : α)
  /-- The lengths of dashes and gaps; none for a solid line. -/
  | setLineDash (segments : List α)
deriving DecidableEq, BEq, Repr

namespace Call

variable {α β : Type}

/-- Whether a surface may refuse the call. -/
def fallible : Call α → Bool
  | translate .. | rotate .. | ellipse .. | arc .. | setLineDash .. => true
  | _ => false

/-- The name of a call. -/
def name : Call α → String
  | save => "save"
  | restore => "restore"
  | translate .. => "translate"
  | rotate .. => "rotate"
  | beginPath => "begin_path"
  | closePath => "close_path"
  | moveTo .. => "move_to"
  | lineTo .. => "line_to"
  | ellipse .. => "ellipse"
  | arc .. => "arc"
  | fill => "fill"
  | stroke => "stroke"
  | fillRect .. => "fill_rect"
  | strokeRect .. => "stroke_rect"
  | clearRect .. => "clear_rect"
  | setFillStyle .. => "fill_style"
  | setStrokeStyle .. => "stroke_style"
  | setLineWidth .. => "line_width"
  | setLineDash .. => "line_dash"

/-- The numbers of a call, in order. -/
def numbers : Call α → List α
  | translate x y | moveTo x y | lineTo x y => [x, y]
  | rotate angle => [angle]
  | ellipse x y radiusX radiusY rotation start stop =>
    [x, y, radiusX, radiusY, rotation, start, stop]
  | arc x y radius start stop => [x, y, radius, start, stop]
  | fillRect x y width height | strokeRect x y width height | clearRect x y width height =>
    [x, y, width, height]
  | setLineWidth width => [width]
  | setLineDash segments => segments
  | _ => []

/-- The color of a call that sets one. -/
def color? : Call α → Option String
  | setFillStyle color | setStrokeStyle color => some color
  | _ => none

end Call

/-- A surface to draw on, with calls in the monad `m`. -/
class Surface (α : outParam Type) (m : Type → Type) where
  call : Call α → m Unit

/-! ## Recording -/

/-- The calls that a recording surface was given. -/
structure Recorder (α : Type) where
  calls : List (Call α) := []
  /-- The number of fallible calls until the one that fails, if one is to fail. -/
  failAt : Option Nat := none

namespace Recorder

variable {α : Type}

/-- The state after a call, and whether the call failed. -/
def take (r : Recorder α) (c : Call α) : Recorder α × Bool :=
  let calls := r.calls ++ [c]
  if c.fallible then
    match r.failAt with
    | some 1 => (⟨calls, none⟩, true)
    | some n => (⟨calls, some (n - 1)⟩, false)
    | none => (⟨calls, none⟩, false)
  else (⟨calls, r.failAt⟩, false)

end Recorder

/-- Drawing on a recording surface.  The error is the call that failed. -/
abbrev Recording (α : Type) := ExceptT (Call α) (StateM (Recorder α))

instance {α : Type} : Surface α (Recording α) where
  call c := do
    let r ← get
    let (r, failed) := r.take c
    set r
    if failed then throw c

/-- The calls of a drawing, and the call that failed, if one did; `failAt` says which of the
fallible calls fails. -/
def record {α : Type} (failAt : Option Nat) (drawing : Recording α Unit) :
    List (Call α) × Option (Call α) :=
  match drawing.run { failAt } with
  | (.ok (), r) => (r.calls, none)
  | (.error c, r) => (r.calls, some c)

end Atelier
