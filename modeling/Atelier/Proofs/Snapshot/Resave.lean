/-
Saving again what was loaded.

A number that is not finite is written as `null`, which no snapshot may hold in the place of a
number.  So a drawing comes back from its JSON text exactly if all its numbers are finite
(`Sheet.resaved_iff_isFinite`).  Loading normalizes, and normalizing can leave that range: what
was loaded comes back exactly if no size overflowed and, if it was loaded from XML, the angles and
the lines were finite in the first place (`Sheet.resaved_loaded_iff`).
-/
import Atelier.Proofs.Json.Decoded
import Atelier.Proofs.Snapshot.Json
import Atelier.Proofs.Stepwise
import Atelier.Snapshot.Xml

namespace Atelier

/-! ## Normalizing -/

lemma isFinite_wrapAngle {a : Float} (ha : a.isFinite = true) : (wrapAngle a).isFinite = true := by
  rw [wrapAngle]
  split
  · exact isFinite_zero
  · exact isFinite_euclideanRemainder ha rfl rfl

lemma isFinite_least {x y : Float} (hx : x.isFinite = true) (hy : y.isFinite = true) :
    (Scalar.least x y).isFinite = true := by
  rw [Scalar.least]
  split
  · exact hx
  · split
    · exact hy
    · exact hx

/-- Edges are finite if the distance between them is. -/
lemma isFinite_least_of_extent {x w : Float}
    (h : (Scalar.abs (x + w - x)).isFinite = true) : (Scalar.least x (x + w)).isFinite = true := by
  obtain ⟨hedge, hx⟩ := isFinite_of_sub (isFinite_of_abs h)
  exact isFinite_least hx hedge

namespace Shape

variable {s : Shape Float}

/-- The place of a normalized shape is finite if its size is. -/
lemma isFinite_normalize_iff :
    s.normalize.IsFinite ↔ s.normalize.width.isFinite = true ∧ s.normalize.height.isFinite = true ∧
      s.normalize.rotation.isFinite = true ∧ s.normalize.paint.lineWidth.isFinite = true := by
  constructor
  · exact fun h => ⟨h.width, h.height, h.rotation, h.lineWidth⟩
  · rintro ⟨hwidth, hheight, hrotation, hline⟩
    exact ⟨isFinite_least_of_extent hwidth, isFinite_least_of_extent hheight, hwidth, hheight,
      hrotation, hline⟩

/-- Of a shape with finite numbers only the size can leave their range. -/
lemma IsFinite.normalize_iff (h : s.IsFinite) :
    s.normalize.IsFinite ↔
      s.normalize.width.isFinite = true ∧ s.normalize.height.isFinite = true := by
  rw [isFinite_normalize_iff]
  constructor
  · exact fun ⟨hwidth, hheight, _⟩ => ⟨hwidth, hheight⟩
  · exact fun ⟨hwidth, hheight⟩ => ⟨hwidth, hheight, isFinite_wrapAngle h.rotation, h.lineWidth⟩

end Shape

/-! ## Numbers that are written and read -/

/-- No number is read where one that is not finite was written. -/
lemma Json.isFinite_of_float?_ofFloat {x y : Float} (h : float? (ofFloat x) = some y) :
    x.isFinite = true := by
  unfold ofFloat at h
  split at h
  · assumption
  · cases h

namespace Paint

variable {p : Paint Float}

lemma exists_of_ofJson? {v : Json} (h : ofJson? v = some p) :
    ∃ fields, Json.record? ["fill", "stroke", "line_width"] v = some fields ∧
      fields.required "line_width" Json.float? = some p.lineWidth := by
  obtain ⟨fields, hfields, h⟩ := Option.bind_eq_some_iff.1 h
  obtain ⟨fill, -, h⟩ := Option.bind_eq_some_iff.1 h
  obtain ⟨stroke, -, h⟩ := Option.bind_eq_some_iff.1 h
  obtain ⟨lineWidth, hlineWidth, h⟩ := Option.bind_eq_some_iff.1 h
  obtain rfl := Option.some.inj h
  exact ⟨fields, hfields, hlineWidth⟩

lemma isFinite_of_ofJson? {room : Nat} {v : Json} (hv : Json.Bounded (room + 1) v)
    (h : ofJson? v = some p) : p.lineWidth.isFinite = true := by
  obtain ⟨fields, hfields, hlineWidth⟩ := exists_of_ofJson? h
  exact Json.isFinite_of_required hv hfields hlineWidth

lemma isFinite_of_ofJson?_toJson {q : Paint Float} (h : ofJson? p.toJson = some q) :
    p.lineWidth.isFinite = true := by
  obtain ⟨fields, hfields, hlineWidth⟩ := exists_of_ofJson? h
  rw [toJson, Json.record?_obj rfl] at hfields
  obtain rfl := Option.some.inj hfields
  exact Json.isFinite_of_float?_ofFloat hlineWidth

end Paint

namespace Shape

variable {s : Shape Float}

/-- The numbers of a shape are read from the fields of its record. -/
lemma exists_of_ofJson? {v : Json} (h : ofJson? v = some s) :
    ∃ fields, Json.record? ["id", "kind", "x", "y", "width", "height", "rotation", "slope",
        "style"] v = some fields ∧
      fields.required "x" Json.float? = some s.x ∧
      fields.required "y" Json.float? = some s.y ∧
      fields.required "width" Json.float? = some s.width ∧
      fields.required "height" Json.float? = some s.height ∧
      fields.required "rotation" Json.float? = some s.rotation ∧
      fields.withDefault "style" .default Paint.ofJson? = some s.paint := by
  obtain ⟨fields, hfields, h⟩ := Option.bind_eq_some_iff.1 h
  obtain ⟨id, -, h⟩ := Option.bind_eq_some_iff.1 h
  obtain ⟨kind, -, h⟩ := Option.bind_eq_some_iff.1 h
  obtain ⟨x, hx, h⟩ := Option.bind_eq_some_iff.1 h
  obtain ⟨y, hy, h⟩ := Option.bind_eq_some_iff.1 h
  obtain ⟨width, hwidth, h⟩ := Option.bind_eq_some_iff.1 h
  obtain ⟨height, hheight, h⟩ := Option.bind_eq_some_iff.1 h
  obtain ⟨rotation, hrotation, h⟩ := Option.bind_eq_some_iff.1 h
  obtain ⟨slope, -, h⟩ := Option.bind_eq_some_iff.1 h
  obtain ⟨paint, hpaint, h⟩ := Option.bind_eq_some_iff.1 h
  obtain rfl := Option.some.inj h
  exact ⟨fields, hfields, hx, hy, hwidth, hheight, hrotation, hpaint⟩

/-- A shape that is read has finite numbers only. -/
lemma isFinite_of_ofJson? {room : Nat} {v : Json} (hv : Json.Bounded (room + 2) v)
    (h : ofJson? v = some s) : s.IsFinite := by
  obtain ⟨fields, hfields, hx, hy, hwidth, hheight, hrotation, hpaint⟩ := exists_of_ofJson? h
  refine ⟨Json.isFinite_of_required hv hfields hx, Json.isFinite_of_required hv hfields hy,
    Json.isFinite_of_required hv hfields hwidth, Json.isFinite_of_required hv hfields hheight,
    Json.isFinite_of_required hv hfields hrotation, ?_⟩
  rcases Json.eq_or_exists_of_withDefault hv hfields hpaint with hdefault | ⟨w, hw, hread⟩
  · rw [hdefault]
    rfl
  · exact Paint.isFinite_of_ofJson? hw hread

/-- The record of a shape is only read if its numbers are finite. -/
lemma isFinite_of_ofJson?_toJson {t : Shape Float} (h : ofJson? s.toJson = some t) :
    s.IsFinite := by
  obtain ⟨fields, hfields, hx, hy, hwidth, hheight, hrotation, hpaint⟩ := exists_of_ofJson? h
  cases hslope : s.slope
  -- The numbers stand at the same names with and without a slope.
  all_goals
    simp only [toJson, hslope] at hfields
    rw [Json.record?_obj rfl] at hfields
    obtain rfl := Option.some.inj hfields
    exact ⟨Json.isFinite_of_float?_ofFloat hx, Json.isFinite_of_float?_ofFloat hy,
      Json.isFinite_of_float?_ofFloat hwidth, Json.isFinite_of_float?_ofFloat hheight,
      Json.isFinite_of_float?_ofFloat hrotation, Paint.isFinite_of_ofJson?_toJson hpaint⟩

end Shape

/-- The second shape is the first one with other numbers. -/
structure Shape.SameStyle (s t : Shape Float) : Prop where
  id : t.id = s.id
  kind : t.kind = s.kind
  slope : t.slope = s.slope
  fill : t.paint.fill = s.paint.fill
  stroke : t.paint.stroke = s.paint.stroke

namespace Sheet

variable {sheet : Sheet Float} {text : String}

/-! ## Drawings that come back -/

/-- The JSON text of a drawing is loaded, to as many shapes, each with the identity and the style
that it had. -/
def Resaved (sheet : Sheet Float) : Prop :=
  ∃ again, ofJsonText sheet.jsonText = .ok again ∧
    List.Forall₂ Shape.SameStyle sheet.shapes again.shapes

/-- The shapes of a record are read one by one. -/
lemma exists_of_ofJson? {v : Json} {version : Nat} {shapes : List (Shape Float)}
    (h : ofJson? v = some (version, shapes)) :
    ∃ fields, Json.record? ["version", "shapes"] v = some fields ∧
      fields.required "shapes" (Json.list? Shape.ofJson?) = some shapes := by
  obtain ⟨fields, hfields, h⟩ := Option.bind_eq_some_iff.1 h
  obtain ⟨version', -, h⟩ := Option.bind_eq_some_iff.1 h
  obtain ⟨shapes', hshapes, h⟩ := Option.bind_eq_some_iff.1 h
  obtain ⟨-, rfl⟩ := Prod.mk.inj (Option.some.inj h)
  exact ⟨fields, hfields, hshapes⟩

/-- What a JSON text is loaded to are the shapes in its record, normalized. -/
lemma exists_of_ofJsonText (h : ofJsonText text = .ok sheet) :
    ∃ v version stored, Json.parse text = some v ∧ ofJson? v = some (version, stored) ∧
      sheet.shapes = stored.map Shape.normalize := by
  unfold ofJsonText at h
  split at h
  · cases h
  · rename_i version stored hread
    split at h
    · cases h
    · obtain ⟨v, hparse, hread⟩ := Option.bind_eq_some_iff.1 hread
      obtain rfl := Except.ok.inj h
      exact ⟨v, version, stored, hparse, hread, rfl⟩

/-- The text of a drawing is only loaded if all numbers are finite. -/
lemma isFinite_of_ofJsonText_jsonText {again : Sheet Float}
    (h : ofJsonText sheet.jsonText = .ok again) : ∀ s ∈ sheet.shapes, s.IsFinite := by
  have hlegible : Json.Legible (123 + 4) sheet.toJson := sheet.legible_toJson
  obtain ⟨v, version, stored, hparse, hread, -⟩ := exists_of_ofJsonText h
  rw [jsonText, Json.parse_pretty hlegible, reread_toJson] at hparse
  obtain rfl := Option.some.inj hparse
  obtain ⟨fields, hfields, hshapes⟩ := exists_of_ofJson? hread
  rw [toJson, Json.record?_obj rfl] at hfields
  obtain rfl := Option.some.inj hfields
  have hitems : ((sheet.shapes.map Shape.reread).map Shape.toJson).mapM Shape.ofJson? =
      some stored := hshapes
  intro s hs
  obtain ⟨t, -, ht⟩ := (Json.exists_of_mapM hitems).2 s.reread.toJson
    (List.mem_map_of_mem (List.mem_map_of_mem hs))
  exact Shape.isFinite_reread_iff.1 (Shape.isFinite_of_ofJson?_toJson ht)

/-- A drawing comes back from its JSON text exactly if all its numbers are finite. -/
lemma resaved_iff_isFinite : sheet.Resaved ↔ ∀ s ∈ sheet.shapes, s.IsFinite := by
  constructor
  · rintro ⟨again, hload, -⟩
    exact isFinite_of_ofJsonText_jsonText hload
  · intro h
    refine ⟨_, ofJsonText_of_isFinite h, ?_⟩
    rw [List.forall₂_map_right_iff, List.forall₂_same]
    exact fun s _ => ⟨rfl, rfl, rfl, rfl, rfl⟩

/-! ## Drawings that are loaded -/

/-- The shapes in a JSON text have finite numbers only, before they are normalized. -/
lemma exists_stored_of_ofJsonText (h : ofJsonText text = .ok sheet) :
    ∃ stored : List (Shape Float), (∀ s ∈ stored, s.IsFinite) ∧
      sheet.shapes = stored.map Shape.normalize := by
  obtain ⟨v, version, stored, hparse, hread, hshapes⟩ := exists_of_ofJsonText h
  have hv : Json.Bounded (123 + 4) v := Json.bounded_of_parse hparse
  obtain ⟨fields, hfields, hlist⟩ := exists_of_ofJson? hread
  obtain ⟨w, hw, hlist⟩ := Json.exists_of_required hv hfields hlist
  refine ⟨stored, fun s hs => ?_, hshapes⟩
  obtain ⟨record, hrecord, hs⟩ := Json.exists_of_mem_list? hw hlist s hs
  exact Shape.isFinite_of_ofJson? hrecord hs

lemma exists_stored_of_shapesOfNodes {nodes : List Xml.Node} {shapes : List (Shape Float)}
    (h : shapesOfNodes nodes = .ok shapes) :
    ∃ stored : List (Shape Float), shapes = stored.map Shape.normalize := by
  induction nodes generalizing shapes with
  | nil => exact ⟨[], (Except.ok.inj h).symm⟩
  | cons node nodes ih =>
    cases node with
    | element name attributes children =>
      unfold shapesOfNodes at h
      dsimp only at h
      split at h
      · cases h
      · obtain ⟨s, -, h⟩ := exists_of_bind_eq_ok h
        obtain ⟨rest, hrest, h⟩ := exists_of_bind_eq_ok h
        obtain ⟨stored, rfl⟩ := ih hrest
        exact ⟨s :: stored, (Except.ok.inj h).symm⟩
    | _ => exact ih h

/-- The shapes of an XML text are normalized, whatever their numbers were. -/
lemma exists_stored_of_ofXmlText (h : ofXmlText text = .ok sheet) :
    ∃ stored : List (Shape Float), sheet.shapes = stored.map Shape.normalize := by
  unfold ofXmlText at h
  split at h
  · rename_i name attributes children _
    unfold ofXml at h
    split at h
    · cases h
    · obtain ⟨version, -, h⟩ := exists_of_bind_eq_ok h
      split at h
      · cases h
      · obtain ⟨shapes, hshapes, h⟩ := exists_of_bind_eq_ok h
        obtain rfl := Except.ok.inj h
        exact exists_stored_of_shapesOfNodes hshapes
  · cases h

/-- A drawing loaded from JSON comes back exactly if no size overflowed when it was normalized.
One loaded from XML, which has a text for every double, comes back exactly if besides its angles
and line widths are finite. -/
theorem resaved_loaded_iff (text : String) (sheet : Sheet Float) :
    (ofJsonText text = .ok sheet → (sheet.Resaved ↔
      ∀ s ∈ sheet.shapes, s.width.isFinite ∧ s.height.isFinite)) ∧
    (ofXmlText text = .ok sheet → (sheet.Resaved ↔
      ∀ s ∈ sheet.shapes, s.width.isFinite ∧ s.height.isFinite ∧ s.rotation.isFinite ∧
        s.paint.lineWidth.isFinite)) := by
  constructor
  · intro h
    obtain ⟨stored, hfinite, hshapes⟩ := exists_stored_of_ofJsonText h
    rw [resaved_iff_isFinite, hshapes, List.forall_mem_map, List.forall_mem_map]
    exact forall₂_congr fun s hs => (hfinite s hs).normalize_iff
  · intro h
    obtain ⟨stored, hshapes⟩ := exists_stored_of_ofXmlText h
    rw [resaved_iff_isFinite, hshapes, List.forall_mem_map, List.forall_mem_map]
    exact forall₂_congr fun s _ => Shape.isFinite_normalize_iff

/-- A shape of finite numbers whose right edge is not a finite number. -/
def broad : Sheet Float :=
  ⟨[⟨.ofNat 1, .rectangle, 1e308, 0, 1e308, 1, 0, .descending, .default⟩]⟩

lemma ofJsonText_broad :
    ofJsonText broad.jsonText = .ok ⟨broad.shapes.map Shape.normalize⟩ :=
  ofJsonText_of_readsBack (by decide +kernel) (by decide +kernel)

/-- A line in XML that is drawn to the left and turned. -/
def tiltedText : String :=
  "<shapes version='1'><shape id='00000000-0000-0000-0000-000000000002' kind='line' " ++
    "x='-3' y=' 2.5' width='-4' height='+.5e0' rotation='1.5' fill='&amp;'/></shapes>"

/-- The line in that text. -/
def tilted : Sheet Float :=
  ⟨[⟨.ofNat 2, .line, -7, 2.5, 4, 0.5, 1.5, .descending, ⟨"&", "#000000", 2⟩⟩]⟩

theorem resaved_loaded_iff_tilted :
    ofXmlText tiltedText = .ok tilted ∧ tilted.Resaved ∧
      ¬ (⟨broad.shapes.map Shape.normalize⟩ : Sheet Float).Resaved := by
  have hload : ofXmlText tiltedText = .ok tilted := by decide +kernel
  refine ⟨hload, ((resaved_loaded_iff _ _).2 hload).2 (by decide +kernel), ?_⟩
  rw [(resaved_loaded_iff _ _).1 ofJsonText_broad]
  decide +kernel

/-- Not every drawing that is loaded can be saved and loaded again. -/
theorem not_always_resaved :
    ¬ ∀ text sheet, ofJsonText text = .ok sheet ∨ ofXmlText text = .ok sheet → sheet.Resaved := by
  intro hall
  have hfinite := resaved_iff_isFinite.1 (hall _ _ (.inl ofJsonText_broad))
  have hwidth := (hfinite _ (List.mem_singleton.2 rfl)).width
  revert hwidth
  decide +kernel

end Sheet

end Atelier
