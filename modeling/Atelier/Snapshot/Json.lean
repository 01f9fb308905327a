/-
Snapshots of a sheet as JSON: the version of the format and the shapes from bottom to top.

The slope is written only if a line ascends, and slope and paint may be missing when read.
Shapes are normalized when they are loaded.
-/
import Atelier.Json.Decode
import Atelier.Json.Printer
import Atelier.Shape.Sheet
import Atelier.Snapshot.Error

namespace Atelier

/-- The version of the snapshot formats. -/
def snapshotVersion : Nat := 1

/-! ## Writing -/

/-- A paint as a record. -/
def Paint.toJson (p : Paint Float) : Json :=
  .obj [("fill", .str p.fill), ("stroke", .str p.stroke), ("line_width", .ofFloat p.lineWidth)]

/-- A shape as a record. -/
def Shape.toJson (s : Shape Float) : Json :=
  let slope :=
    match s.slope with
    | .descending => []
    | .ascending => [("slope", Json.str s.slope.name)]
  .obj ([("id", .str s.id.text), ("kind", .str s.kind.name), ("x", .ofFloat s.x),
    ("y", .ofFloat s.y), ("width", .ofFloat s.width), ("height", .ofFloat s.height),
    ("rotation", .ofFloat s.rotation)] ++ slope ++ [("style", s.paint.toJson)])

/-- A sheet as a record. -/
def Sheet.toJson (sheet : Sheet Float) : Json :=
  .obj [("version", .ofNat snapshotVersion), ("shapes", .arr (sheet.shapes.map Shape.toJson))]

/-- The JSON snapshot of a sheet. -/
def Sheet.jsonText (sheet : Sheet Float) : String :=
  sheet.toJson.pretty

/-! ## Reading -/

/-- The paint in a record. -/
def Paint.ofJson? (v : Json) : Option (Paint Float) := do
  let r ← v.record? ["fill", "stroke", "line_width"]
  some {
    fill := ← r.required "fill" Json.string?
    stroke := ← r.required "stroke" Json.string?
    lineWidth := ← r.required "line_width" Json.float? }

/-- The shape in a record, as it is stored. -/
def Shape.ofJson? (v : Json) : Option (Shape Float) := do
  let r ← v.record?
    ["id", "kind", "x", "y", "width", "height", "rotation", "slope", "style"]
  some {
    id := ← r.required "id" fun v => v.string?.bind ShapeId.parse?
    kind := ← r.required "kind" (Json.choice? ShapeKind.ofName?)
    x := ← r.required "x" Json.float?
    y := ← r.required "y" Json.float?
    width := ← r.required "width" Json.float?
    height := ← r.required "height" Json.float?
    rotation := ← r.required "rotation" Json.float?
    slope := ← r.withDefault "slope" .descending (Json.choice? Slope.ofName?)
    paint := ← r.withDefault "style" Paint.default Paint.ofJson? }

/-- The version and the shapes of a snapshot, as they are stored. -/
def Sheet.ofJson? (v : Json) : Option (Nat × List (Shape Float)) := do
  let r ← v.record? ["version", "shapes"]
  let version ← r.required "version" (Json.natural? UInt32.size)
  let shapes ← r.required "shapes" (Json.list? Shape.ofJson?)
  some (version, shapes)

/-- The sheet of a JSON snapshot, its shapes normalized. -/
def Sheet.ofJsonText (text : String) : Except SnapshotError (Sheet Float) :=
  match (Json.parse text).bind Sheet.ofJson? with
  | none => .error (.json text)
  | some (version, shapes) =>
    if version ≠ snapshotVersion then .error (.unsupportedVersion version)
    else .ok ⟨shapes.map Shape.normalize⟩

end Atelier
