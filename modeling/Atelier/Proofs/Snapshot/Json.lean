/-
A drawing survives its JSON snapshot.

The text of a snapshot holds the shapes as they are, and so reading it gives the same shapes with
their numbers read again, before they are normalized (`Sheet.stored_jsonText`).  That asks for
finite numbers only: the infinities and NaN have no text in JSON.
-/
import Atelier.Proofs.Json.Records
import Atelier.Proofs.Shape.Normalize
import Atelier.Proofs.Shape.Text
import Atelier.Snapshot.Json

namespace Atelier

open Json.Fields (required_of_eq withDefault_of_eq)

/-! ## Numbers that are read again -/

/-- The paint with its line width read again. -/
def Paint.reread (p : Paint Float) : Paint Float :=
  { p with lineWidth := Json.Number.rereadFloat p.lineWidth }

namespace Shape

/-- The shape with its numbers read again. -/
def reread (s : Shape Float) : Shape Float :=
  { s with
    x := Json.Number.rereadFloat s.x
    y := Json.Number.rereadFloat s.y
    width := Json.Number.rereadFloat s.width
    height := Json.Number.rereadFloat s.height
    rotation := Json.Number.rereadFloat s.rotation
    paint := s.paint.reread }

/-- All numbers of a shape are read from their texts as they are. -/
@[mk_iff]
structure ReadsBack (s : Shape Float) : Prop where
  x : (Json.ofFloat s.x).ReadsBack
  y : (Json.ofFloat s.y).ReadsBack
  width : (Json.ofFloat s.width).ReadsBack
  height : (Json.ofFloat s.height).ReadsBack
  rotation : (Json.ofFloat s.rotation).ReadsBack
  lineWidth : (Json.ofFloat s.paint.lineWidth).ReadsBack

variable {s : Shape Float}

/-- Reading the numbers again changes nothing exactly if they are read as they are. -/
lemma reread_eq_iff : s.reread = s ↔ s.ReadsBack := by
  obtain ⟨id, kind, x, y, width, height, rotation, slope, paint⟩ := s
  obtain ⟨fill, stroke, lineWidth⟩ := paint
  simp [reread, Paint.reread, readsBack_iff, Json.readsBack_ofFloat_iff]

instance : DecidablePred ReadsBack := fun _ => decidable_of_iff _ reread_eq_iff

/-- A number is read again as a finite one only if it is finite. -/
lemma isFinite_reread_iff : s.reread.IsFinite ↔ s.IsFinite := by
  constructor
  · rintro ⟨hx, hy, hwidth, hheight, hrotation, hline⟩
    simp only [reread, Paint.reread, Json.Number.isFinite_rereadFloat] at *
    exact ⟨hx, hy, hwidth, hheight, hrotation, hline⟩
  · rintro ⟨hx, hy, hwidth, hheight, hrotation, hline⟩
    constructor <;> simpa only [reread, Paint.reread, Json.Number.isFinite_rereadFloat]

lemma reread_toJson (s : Shape Float) : s.toJson.reread = s.reread.toJson := by
  have hpaint : s.paint.toJson.reread = s.paint.reread.toJson := by
    simp only [Paint.toJson, Json.reread_obj, List.map_cons, List.map_nil, Json.reread_ofFloat]
    rfl
  cases hslope : s.slope
  -- The numbers are the same with and without a slope.
  all_goals
    simp only [toJson, reread, hslope, Json.reread_obj, List.map_append, List.map_cons,
      List.map_nil, Json.reread_ofFloat, hpaint]
    rfl

end Shape

/-! ## Shapes -/

lemma Paint.ofJson?_toJson {p : Paint Float} (h : p.lineWidth.isFinite = true) :
    ofJson? p.toJson = some p := by
  have hlineWidth := Json.float?_ofFloat h
  rw [ofJson?, toJson, Json.record?_obj rfl]
  simp only [Option.bind_eq_bind, Option.bind_some]
  rw [required_of_eq rfl, required_of_eq rfl, required_of_eq rfl, hlineWidth]
  rfl

namespace Shape

lemma legible_toJson {room : Nat} (s : Shape Float) : Json.Legible (room + 2) s.toJson := by
  have hpaint : Json.Legible (room + 1) s.paint.toJson := by
    refine .obj fun member hmember => ?_
    simp only [List.mem_cons, List.not_mem_nil, or_false] at hmember
    rcases hmember with rfl | rfl | rfl
    · exact .str _
    · exact .str _
    · exact Json.legible_ofFloat _
  refine .obj fun member hmember => ?_
  simp only [List.mem_append, List.mem_cons, List.not_mem_nil, or_false] at hmember
  rcases hmember with ((rfl | rfl | rfl | rfl | rfl | rfl | rfl) | hslope) | rfl
  · exact .str _
  · exact .str _
  · exact Json.legible_ofFloat _
  · exact Json.legible_ofFloat _
  · exact Json.legible_ofFloat _
  · exact Json.legible_ofFloat _
  · exact Json.legible_ofFloat _
  · cases hdirection : s.slope with
    | descending => simp [hdirection] at hslope
    | ascending =>
      simp only [hdirection, List.mem_singleton] at hslope
      subst hslope
      exact .str _
  · exact hpaint

/-- A shape is read from its fields.  The slope may be missing if it descends. -/
lemma ofJson?_obj {s : Shape Float} {members : List (String × Json)} (h : s.IsFinite)
    (honce : Json.eachOnce ["id", "kind", "x", "y", "width", "height", "rotation", "slope",
      "style"] members = true)
    (hid : members.lookup "id" = some (.str s.id.text))
    (hkind : members.lookup "kind" = some (.str s.kind.name))
    (hx : members.lookup "x" = some (.ofFloat s.x))
    (hy : members.lookup "y" = some (.ofFloat s.y))
    (hwidth : members.lookup "width" = some (.ofFloat s.width))
    (hheight : members.lookup "height" = some (.ofFloat s.height))
    (hrotation : members.lookup "rotation" = some (.ofFloat s.rotation))
    (hslope : Json.Fields.withDefault (members.lookup ·) "slope" .descending
      (Json.choice? Slope.ofName?) = some s.slope)
    (hstyle : members.lookup "style" = some s.paint.toJson) :
    ofJson? (.obj members) = some s := by
  have hid' : (Json.str s.id.text).string?.bind ShapeId.parse? = some s.id := by
    rw [Json.string?, Option.bind_some, s.id.parse?_text]
  have hkind' : Json.choice? ShapeKind.ofName? (.str s.kind.name) = some s.kind := by
    rw [Json.choice?, s.kind.ofName?_name]
  rw [ofJson?, Json.record?_obj honce]
  simp only [Option.bind_eq_bind, Option.bind_some]
  rw [required_of_eq hid, hid', required_of_eq hkind, hkind', required_of_eq hx,
    required_of_eq hy, required_of_eq hwidth, required_of_eq hheight, required_of_eq hrotation,
    hslope, withDefault_of_eq hstyle, Json.float?_ofFloat h.x, Json.float?_ofFloat h.y,
    Json.float?_ofFloat h.width, Json.float?_ofFloat h.height, Json.float?_ofFloat h.rotation,
    Paint.ofJson?_toJson h.lineWidth]
  rfl

/-- The record of a shape is read as the shape. -/
lemma ofJson?_toJson {s : Shape Float} (h : s.IsFinite) : ofJson? s.toJson = some s := by
  cases hslope : s.slope with
  | descending =>
    simp only [toJson, hslope]
    exact ofJson?_obj h rfl rfl rfl rfl rfl rfl rfl rfl (by rw [hslope]; rfl) rfl
  | ascending =>
    simp only [toJson, hslope]
    exact ofJson?_obj h rfl rfl rfl rfl rfl rfl rfl rfl (by rw [hslope]; rfl) rfl

end Shape

/-! ## Drawings -/

namespace Sheet

variable {sheet : Sheet Float}

lemma legible_toJson {room : Nat} (sheet : Sheet Float) :
    Json.Legible (room + 4) sheet.toJson := by
  refine .obj fun member hmember => ?_
  simp only [List.mem_cons, List.not_mem_nil, or_false] at hmember
  rcases hmember with rfl | rfl
  · exact .num (by decide : snapshotVersion < UInt64.size)
  · exact Json.legible_map (fun s => s.legible_toJson) _

lemma ofJson?_toJson (h : ∀ s ∈ sheet.shapes, s.IsFinite) :
    ofJson? sheet.toJson = some (snapshotVersion, sheet.shapes) := by
  have hshapes : Json.list? Shape.ofJson? (.arr (sheet.shapes.map Shape.toJson)) =
      some sheet.shapes := Json.list?_map fun s hs => Shape.ofJson?_toJson (h s hs)
  rw [ofJson?, toJson, Json.record?_obj rfl]
  simp only [Option.bind_eq_bind, Option.bind_some]
  rw [required_of_eq rfl, required_of_eq rfl, hshapes]
  rfl

lemma reread_toJson (sheet : Sheet Float) :
    sheet.toJson.reread = (⟨sheet.shapes.map Shape.reread⟩ : Sheet Float).toJson := by
  simp only [toJson, Json.reread_obj, List.map_cons, List.map_nil, Json.reread_map,
    Shape.reread_toJson, List.map_map]
  rfl

/-- What stands in the text of a snapshot are the version and the shapes as they are, but for
numbers that are not read back. -/
lemma stored_jsonText (h : ∀ s ∈ sheet.shapes, s.IsFinite) :
    (Json.parse sheet.jsonText).bind ofJson? =
      some (snapshotVersion, sheet.shapes.map Shape.reread) := by
  have hlegible : Json.Legible (123 + 4) sheet.toJson := sheet.legible_toJson
  have hfinite : ∀ s ∈ sheet.shapes.map Shape.reread, s.IsFinite :=
    List.forall_mem_map.2 fun s hs => Shape.isFinite_reread_iff.2 (h s hs)
  rw [jsonText, Json.parse_pretty hlegible, Option.bind_some, reread_toJson,
    ofJson?_toJson hfinite]

/-- Loading the text of finite numbers reads them again and normalizes the shapes. -/
lemma ofJsonText_of_isFinite (h : ∀ s ∈ sheet.shapes, s.IsFinite) :
    ofJsonText sheet.jsonText = .ok ⟨sheet.shapes.map fun s => s.reread.normalize⟩ := by
  have hshapes : (sheet.shapes.map Shape.reread).map Shape.normalize =
      sheet.shapes.map fun s => s.reread.normalize := List.map_map
  rw [ofJsonText, stored_jsonText h, ← hshapes]
  rfl

lemma ofJsonText_of_readsBack (h : ∀ s ∈ sheet.shapes, s.IsFinite)
    (hback : ∀ s ∈ sheet.shapes, s.ReadsBack) :
    ofJsonText sheet.jsonText = .ok ⟨sheet.shapes.map Shape.normalize⟩ := by
  rw [ofJsonText_of_isFinite h]
  congr 2
  exact List.map_congr_left fun s hs => congrArg Shape.normalize (Shape.reread_eq_iff.2 (hback s hs))

/-- A drawing of finite numbers that are read from their texts as they are is loaded from its text.
The shapes come back in their order, each of them normalized and otherwise as it was. -/
theorem ofJsonText_jsonText (h : ∀ s ∈ sheet.shapes, s.IsFinite)
    (hback : ∀ s ∈ sheet.shapes, s.ReadsBack) :
    ofJsonText sheet.jsonText = .ok ⟨sheet.shapes.map Shape.normalize⟩ ∧
      List.Forall₂ Shape.SameLook sheet.shapes (sheet.shapes.map Shape.normalize) :=
  ⟨ofJsonText_of_readsBack h hback, Shape.forall₂_sameLook_normalize sheet.shapes⟩

/-- Two shapes with one identifier.  One is a line with a negative width, several turns and
numbers from both ends of the range, and its colors hold what has to be escaped. -/
def scribble : Sheet Float :=
  ⟨[⟨.ofNat (2 ^ 128 - 1), .line, 0.1, -0.0, -1e300, 5e-324, 100, .ascending,
      ⟨"a\"b\\c\n\x00\x1f", "é\u2028😀", 1.7976931348623157e308⟩⟩,
    ⟨.ofNat (2 ^ 128 - 1), .ellipse, 1e16, 1e-7, 0.3, 2, 0, .descending, .default⟩]⟩

theorem ofJsonText_jsonText_scribble :
    (∀ s ∈ scribble.shapes, s.IsFinite) ∧ (∀ s ∈ scribble.shapes, s.ReadsBack) ∧
      scribble.shapes.map Shape.normalize ≠ scribble.shapes ∧
      ofJsonText scribble.jsonText = .ok ⟨scribble.shapes.map Shape.normalize⟩ := by
  have hfinite : ∀ s ∈ scribble.shapes, s.IsFinite := by decide +kernel
  have hback : ∀ s ∈ scribble.shapes, s.ReadsBack := by decide +kernel
  exact ⟨hfinite, hback, by decide +kernel, (ofJsonText_jsonText hfinite hback).1⟩

end Sheet

end Atelier
