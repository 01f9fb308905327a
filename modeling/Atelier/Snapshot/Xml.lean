/-
Snapshots of a sheet as XML: an element `shapes` with an empty element `shape` for each shape
from bottom to top.

The slope is written only if a line ascends.  Slope, fill, stroke and line width may be missing
when read, and shapes are normalized when they are loaded.
-/
import Atelier.Decimal.Layout
import Atelier.Decimal.Literal
import Atelier.Snapshot.Json
import Atelier.Text.Blank
import Atelier.Xml.Escape
import Atelier.Xml.Reader

namespace Atelier

/-! ## Writing -/

/-- An attribute, with a space before it. -/
def xmlAttribute (name value : String) : String :=
  " " ++ name ++ "=\"" ++ value ++ "\""

/-- The element of a shape. -/
def Shape.xmlText (s : Shape Float) : String :=
  "<shape" ++ xmlAttribute "id" s.id.text
    ++ xmlAttribute "kind" s.kind.name
    ++ xmlAttribute "x" (plainText s.x)
    ++ xmlAttribute "y" (plainText s.y)
    ++ xmlAttribute "width" (plainText s.width)
    ++ xmlAttribute "height" (plainText s.height)
    ++ xmlAttribute "rotation" (plainText s.rotation)
    ++ xmlAttribute "fill" (Xml.escape s.paint.fill)
    ++ xmlAttribute "stroke" (Xml.escape s.paint.stroke)
    ++ xmlAttribute "line-width" (plainText s.paint.lineWidth)
    ++ (match s.slope with
      | .descending => ""
      | .ascending => xmlAttribute "slope" s.slope.name)
    ++ "/>"

/-- The XML snapshot of a sheet. -/
def Sheet.xmlText (sheet : Sheet Float) : String :=
  "<shapes" ++ xmlAttribute "version" (toString snapshotVersion) ++ ">\n"
    ++ String.join (sheet.shapes.map fun s => "  " ++ s.xmlText ++ "\n")
    ++ "</shapes>\n"

/-! ## Reading -/

/-- The value of an attribute that has to be there. -/
def requiredAttribute (attributes : List Xml.Attribute) (name : String) :
    Except SnapshotError String :=
  match Xml.Node.attribute? attributes name with
  | some value => .ok value
  | none => .error (.missingAttribute name)

/-- The number that the value of an attribute names, white space around it aside. -/
def attributeNumber (name value : String) : Except SnapshotError Float :=
  match readFloat? (trim value.toList) with
  | some x => .ok x
  | none => .error (.invalidNumber name value)

/-- The number of an attribute that has to be there. -/
def requiredNumber (attributes : List Xml.Attribute) (name : String) :
    Except SnapshotError Float := do
  attributeNumber name (← requiredAttribute attributes name)

/-- The shape that the attributes of an element describe, as it is stored.  They are looked at
in a fixed order, and the first that is wrong is the error. -/
def Shape.ofAttributes (attributes : List Xml.Attribute) :
    Except SnapshotError (Shape Float) := do
  let get := Xml.Node.attribute? attributes
  let idText ← requiredAttribute attributes "id"
  let id ← (ShapeId.parse? idText).elim (.error (.invalidId idText)) .ok
  let kindName ← requiredAttribute attributes "kind"
  let kind ← (ShapeKind.ofName? kindName).elim (.error (.unknownKind kindName)) .ok
  let slope ←
    match get "slope" with
    | some name => (Slope.ofName? name).elim (.error (.unknownSlope name)) .ok
    | none => .ok .descending
  let standard : Paint Float := .default
  let lineWidth ←
    match get "line-width" with
    | some value => attributeNumber "line-width" value
    | none => .ok standard.lineWidth
  let paint : Paint Float :=
    ⟨(get "fill").getD standard.fill, (get "stroke").getD standard.stroke, lineWidth⟩
  let x ← requiredNumber attributes "x"
  let y ← requiredNumber attributes "y"
  let width ← requiredNumber attributes "width"
  let height ← requiredNumber attributes "height"
  let rotation ← requiredNumber attributes "rotation"
  return { id, kind, x, y, width, height, rotation, slope, paint }

/-- The shapes of the element children, normalized; anything but an element is passed over. -/
def shapesOfNodes : List Xml.Node → Except SnapshotError (List (Shape Float))
  | [] => .ok []
  | .element name attributes _ :: rest => do
    if name ≠ "shape" then throw (.unexpectedElement name)
    let s ← Shape.ofAttributes attributes
    return s.normalize :: (← shapesOfNodes rest)
  | _ :: rest => shapesOfNodes rest

/-- The version that a snapshot states. -/
def versionOfAttributes (attributes : List Xml.Attribute) : Except SnapshotError Nat := do
  let text ← requiredAttribute attributes "version"
  match readUnsigned? UInt32.size text.toList with
  | some version => return version
  | none => throw (.invalidNumber "version" text)

/-- The sheet of a document with a root element. -/
def Sheet.ofXml (name : String) (attributes : List Xml.Attribute) (children : List Xml.Node) :
    Except SnapshotError (Sheet Float) := do
  if name ≠ "shapes" then throw (.unexpectedElement name)
  let version ← versionOfAttributes attributes
  if version ≠ snapshotVersion then throw (.unsupportedVersion version)
  return ⟨← shapesOfNodes children⟩

/-- The sheet of an XML snapshot, its shapes normalized. -/
def Sheet.ofXmlText (text : String) : Except SnapshotError (Sheet Float) :=
  match Xml.parse text with
  | some (.element name attributes children) => Sheet.ofXml name attributes children
  | _ => .error (.xml text)

end Atelier
