/-
A drawing survives its XML snapshot.

All numbers have a text, NaN and the infinities too, and a color is escaped where it has to be.
So the document that is written has one element for each shape, with the values of the shape as
its attributes (`Sheet.parse_xmlText`), and these are read as the shape.  Tabs and line breaks in
a color are written as they are, and are spaces when they are read (`Sheet.parse_xmlText_spaced`).
-/
import Atelier.Proofs.Decimal.Plain
import Atelier.Proofs.Shape.Normalize
import Atelier.Proofs.Shape.Text
import Atelier.Proofs.Stepwise
import Atelier.Proofs.Xml.Elements
import Atelier.Snapshot.Xml

namespace Atelier

open Xml (attributeText plainAttributes normalizedAttribute IsShown IsWritable)

/-! ## Attributes -/

section

variable {c : Char} {name value : String}

lemma isShown_of_isBare (h : isBare c = true) : IsShown c := by
  obtain ⟨hlow, hhigh⟩ := toNat_of_isBare h
  simp only [IsShown, Xml.isXmlChar]
  rw [if_neg (by omega), Bool.and_eq_true, bne_iff_ne, bne_iff_ne]
  omega

lemma not_mem_of_isBare (h : isBare c = true) : c ∉ '&' :: Xml.markupChars := by
  intro hc
  simp only [Xml.markupChars, List.mem_cons, List.not_mem_nil, or_false] at hc
  rcases hc with rfl | rfl | rfl | rfl | rfl
  all_goals cases h

lemma toList_xmlAttribute_escape (name value : String) :
    (xmlAttribute name (Xml.escape value)).toList = attributeText (name, value) := by
  simp [xmlAttribute, Xml.escape, attributeText]

/-- A bare value is not changed by escaping it. -/
lemma toList_xmlAttribute (h : ∀ c ∈ value.toList, isBare c = true) :
    (xmlAttribute name value).toList = attributeText (name, value) := by
  have hescape : Xml.escape value = value :=
    Xml.escape_eq_self fun c hc => not_mem_of_isBare (h c hc)
  rw [← toList_xmlAttribute_escape, hescape]

end

/-! ## Shapes -/

/-- All characters of the colors can be shown. -/
def Paint.IsShown (p : Paint Float) : Prop :=
  ∀ c ∈ p.fill.toList ++ p.stroke.toList, Xml.IsShown c

instance : DecidablePred Paint.IsShown :=
  fun p => List.decidableBAll Xml.IsShown (p.fill.toList ++ p.stroke.toList)

/-- A document may hold all characters of the colors. -/
def Paint.IsAllowed (p : Paint Float) : Prop :=
  ∀ c ∈ p.fill.toList ++ p.stroke.toList, Xml.isXmlChar c = true

instance : DecidablePred Paint.IsAllowed :=
  fun p => List.decidableBAll (fun c => Xml.isXmlChar c = true) (p.fill.toList ++ p.stroke.toList)

/-- The paint with the white space of its colors normalized. -/
def Paint.spaced (p : Paint Float) : Paint Float :=
  { p with fill := Xml.normalized p.fill, stroke := Xml.normalized p.stroke }

/-- The shape with the white space of its colors normalized. -/
def Shape.spaced (s : Shape Float) : Shape Float :=
  { s with paint := s.paint.spaced }

/-- The drawing with the white space of all colors normalized. -/
def Sheet.spaced (sheet : Sheet Float) : Sheet Float :=
  ⟨sheet.shapes.map Shape.spaced⟩

namespace Paint

variable {p : Paint Float}

lemma IsShown.isAllowed (h : p.IsShown) : p.IsAllowed :=
  fun c hc => (h c hc).2

/-- Exactly the colors that can be shown are left as they are. -/
lemma spaced_eq_self_iff (h : p.IsAllowed) : p.spaced = p ↔ p.IsShown := by
  obtain ⟨fill, stroke, lineWidth⟩ := p
  obtain ⟨hfill, hstroke⟩ := List.forall_mem_append.1 h
  rw [IsShown, List.forall_mem_append, ← Xml.normalized_eq_self_iff hfill,
    ← Xml.normalized_eq_self_iff hstroke, spaced, Paint.mk.injEq]
  simp

end Paint

lemma Sheet.spaced_of_isShown {sheet : Sheet Float} (h : ∀ s ∈ sheet.shapes, s.paint.IsShown) :
    sheet.spaced = sheet := by
  have hself : ∀ s ∈ sheet.shapes, s.spaced = s := by
    intro s hs
    rw [Shape.spaced, (Paint.spaced_eq_self_iff (h s hs).isAllowed).2 (h s hs)]
  rw [Sheet.spaced, List.map_congr_left hself, List.map_id']

namespace Shape

/-- The attributes of the element of a shape. -/
def xmlAttributes (s : Shape Float) : List (String × String) :=
  [("id", s.id.text), ("kind", s.kind.name), ("x", plainText s.x), ("y", plainText s.y),
    ("width", plainText s.width), ("height", plainText s.height),
    ("rotation", plainText s.rotation), ("fill", s.paint.fill), ("stroke", s.paint.stroke),
    ("line-width", plainText s.paint.lineWidth)] ++
    match s.slope with
    | .descending => []
    | .ascending => [("slope", s.slope.name)]

variable {s : Shape Float}

lemma isBare_of_mem_name (kind : ShapeKind) : ∀ c ∈ kind.name.toList, isBare c = true := by
  cases kind <;> exact List.all_eq_true.1 (by decide)

lemma toList_xmlText (s : Shape Float) :
    s.xmlText.toList =
      '<' :: ("shape".toList ++ (s.xmlAttributes.flatMap attributeText ++ ['/', '>'])) := by
  have hnumber (name : String) (x : Float) :
      (xmlAttribute name (plainText x)).toList = attributeText (name, plainText x) :=
    toList_xmlAttribute fun c hc => isBare_of_mem_plainText hc
  have hid : (xmlAttribute "id" s.id.text).toList = attributeText ("id", s.id.text) :=
    toList_xmlAttribute fun c hc => ShapeId.isBare_of_mem_text hc
  have hkind : (xmlAttribute "kind" s.kind.name).toList = attributeText ("kind", s.kind.name) :=
    toList_xmlAttribute (isBare_of_mem_name s.kind)
  have hslope : (xmlAttribute "slope" Slope.ascending.name).toList =
      attributeText ("slope", Slope.ascending.name) := rfl
  have hopen : "<shape".toList = '<' :: "shape".toList := rfl
  have hclose : "/>".toList = ['/', '>'] := rfl
  unfold xmlText xmlAttributes
  cases s.slope with
  | descending =>
    simp only [String.toList_append, hopen, hclose, hid, hkind, hnumber,
      toList_xmlAttribute_escape, List.flatMap_cons, List.flatMap_nil, List.append_assoc,
      List.cons_append, List.nil_append]
    rfl
  | ascending =>
    simp only [String.toList_append, hopen, hclose, hid, hkind, hnumber, hslope,
      toList_xmlAttribute_escape, List.flatMap_cons, List.flatMap_nil, List.append_assoc,
      List.cons_append, List.nil_append]

/-- The names of the attributes that a shape can have. -/
def attributeNames : List String :=
  ["id", "kind", "x", "y", "width", "height", "rotation", "fill", "stroke", "line-width", "slope"]

lemma map_fst_xmlAttributes_sublist (s : Shape Float) :
    (s.xmlAttributes.map Prod.fst).Sublist attributeNames := by
  unfold xmlAttributes
  cases s.slope with
  | descending => exact List.sublist_append_left _ ["slope"]
  | ascending => exact List.Sublist.refl attributeNames

lemma isXmlChar_of_mem_xmlAttributes (h : s.paint.IsAllowed) {a : String × String}
    (ha : a ∈ s.xmlAttributes) : ∀ c ∈ a.2.toList, Xml.isXmlChar c = true := by
  have hnumber (x : Float) : ∀ c ∈ (plainText x).toList, Xml.isXmlChar c = true := fun c hc =>
    (isShown_of_isBare (isBare_of_mem_plainText hc)).2
  simp only [xmlAttributes, List.mem_append, List.mem_cons, List.not_mem_nil, or_false] at ha
  rcases ha with (rfl | rfl | rfl | rfl | rfl | rfl | rfl | rfl | rfl | rfl) | hslope
  · exact fun c hc => (isShown_of_isBare (ShapeId.isBare_of_mem_text hc)).2
  · exact fun c hc => (isShown_of_isBare (isBare_of_mem_name s.kind c hc)).2
  · exact hnumber s.x
  · exact hnumber s.y
  · exact hnumber s.width
  · exact hnumber s.height
  · exact hnumber s.rotation
  · exact fun c hc => h c (List.mem_append_left _ hc)
  · exact fun c hc => h c (List.mem_append_right _ hc)
  · exact hnumber s.paint.lineWidth
  · cases hdirection : s.slope with
    | descending => simp [hdirection] at hslope
    | ascending =>
      simp only [hdirection, List.mem_singleton] at hslope
      subst hslope
      exact List.all_eq_true.1 (by decide)

/-- The attributes of a shape can be written if a document may hold its colors. -/
lemma isWritable_xmlAttributes (h : s.paint.IsAllowed) : IsWritable s.xmlAttributes := by
  have hsublist := s.map_fst_xmlAttributes_sublist
  have hmem {a : String × String} (ha : a ∈ s.xmlAttributes) : a.1 ∈ attributeNames :=
    hsublist.subset (List.mem_map_of_mem ha)
  refine ⟨fun a ha => ?_, fun a ha => ?_, ?_, fun a ha => isXmlChar_of_mem_xmlAttributes h ha⟩
  · have hall : ∀ name ∈ attributeNames, Xml.isPlainName name.toList = true := by decide
    exact hall a.1 (hmem ha)
  · rintro hdeclares
    have hnot : "xmlns" ∉ attributeNames := by decide
    exact hnot (hdeclares ▸ hmem ha)
  · have hnodup : attributeNames.Nodup := by decide
    exact hnodup.sublist hsublist

/-- Of the attributes of a shape only the colors may be read as others. -/
lemma map_normalizedAttribute_xmlAttributes (s : Shape Float) :
    s.xmlAttributes.map normalizedAttribute = s.spaced.xmlAttributes := by
  have hbare {name value : String} (h : ∀ c ∈ value.toList, isBare c = true) :
      normalizedAttribute (name, value) = (name, value) := by
    rw [normalizedAttribute, Xml.normalized_of_isShown fun c hc => isShown_of_isBare (h c hc)]
  have hnumber (name : String) (x : Float) :
      normalizedAttribute (name, plainText x) = (name, plainText x) :=
    hbare fun c hc => isBare_of_mem_plainText hc
  have hid : normalizedAttribute ("id", s.id.text) = ("id", s.id.text) :=
    hbare fun c hc => ShapeId.isBare_of_mem_text hc
  have hkind : normalizedAttribute ("kind", s.kind.name) = ("kind", s.kind.name) :=
    hbare (isBare_of_mem_name s.kind)
  have hslope : normalizedAttribute ("slope", Slope.ascending.name) =
      ("slope", Slope.ascending.name) := rfl
  have hcolor (name value : String) :
      normalizedAttribute (name, value) = (name, Xml.normalized value) := rfl
  unfold xmlAttributes
  cases hdirection : s.slope with
  | descending =>
    simp only [spaced, Paint.spaced, hdirection, List.map_append, List.map_cons, List.map_nil, hid,
      hkind, hnumber, hcolor _ s.paint.fill, hcolor _ s.paint.stroke]
  | ascending =>
    simp only [spaced, Paint.spaced, hdirection, List.map_append, List.map_cons, List.map_nil, hid,
      hkind, hnumber, hslope, hcolor _ s.paint.fill, hcolor _ s.paint.stroke]

/-! ## Reading a shape -/

lemma attributeNumber_plainText (name : String) (x : Float) :
    attributeNumber name (plainText x) = .ok x := by
  have htrim : trim (plainText x).toList = (plainText x).toList :=
    trim_of_isBare fun c hc => isBare_of_mem_plainText hc
  rw [attributeNumber, htrim, readFloat?_plainText]

lemma requiredAttribute_of_eq {attributes : List Xml.Attribute} {name value : String}
    (h : Xml.Node.attribute? attributes name = some value) :
    requiredAttribute attributes name = .ok value := by
  rw [requiredAttribute, h]

lemma requiredNumber_of_eq {attributes : List Xml.Attribute} {name : String} {x : Float}
    (h : Xml.Node.attribute? attributes name = some (plainText x)) :
    requiredNumber attributes name = .ok x := by
  rw [requiredNumber, requiredAttribute_of_eq h, ok_bind, attributeNumber_plainText]

/-- A shape is read from its attributes.  The slope may be missing if it descends. -/
lemma ofAttributes_of_eq {attributes : List Xml.Attribute}
    (hid : Xml.Node.attribute? attributes "id" = some s.id.text)
    (hkind : Xml.Node.attribute? attributes "kind" = some s.kind.name)
    (hx : Xml.Node.attribute? attributes "x" = some (plainText s.x))
    (hy : Xml.Node.attribute? attributes "y" = some (plainText s.y))
    (hwidth : Xml.Node.attribute? attributes "width" = some (plainText s.width))
    (hheight : Xml.Node.attribute? attributes "height" = some (plainText s.height))
    (hrotation : Xml.Node.attribute? attributes "rotation" = some (plainText s.rotation))
    (hfill : Xml.Node.attribute? attributes "fill" = some s.paint.fill)
    (hstroke : Xml.Node.attribute? attributes "stroke" = some s.paint.stroke)
    (hlineWidth : Xml.Node.attribute? attributes "line-width" = some (plainText s.paint.lineWidth))
    (hslope : Xml.Node.attribute? attributes "slope" = some s.slope.name ∨
      Xml.Node.attribute? attributes "slope" = none ∧ s.slope = .descending) :
    ofAttributes attributes = .ok s := by
  have hread : ofAttributes attributes = .ok ⟨s.id, s.kind, s.x, s.y, s.width, s.height,
      s.rotation, s.slope, ⟨s.paint.fill, s.paint.stroke, s.paint.lineWidth⟩⟩ := by
    unfold ofAttributes
    simp only [requiredAttribute_of_eq hid, requiredAttribute_of_eq hkind,
      requiredNumber_of_eq hx, requiredNumber_of_eq hy, requiredNumber_of_eq hwidth,
      requiredNumber_of_eq hheight, requiredNumber_of_eq hrotation, hfill, hstroke, hlineWidth,
      attributeNumber_plainText, ok_bind, ShapeId.parse?_text, ShapeKind.ofName?_name,
      Option.elim_some, Option.getD_some]
    rcases hslope with hslope | ⟨hslope, hdirection⟩
    · simp only [hslope, Slope.ofName?_name, Option.elim_some, ok_bind]
      rfl
    · simp only [hslope, hdirection]
      rfl
  exact hread

lemma ofAttributes_xmlAttributes (s : Shape Float) :
    ofAttributes (plainAttributes s.xmlAttributes) = .ok s := by
  cases hslope : s.slope with
  | descending =>
    simp only [xmlAttributes, hslope]
    exact ofAttributes_of_eq rfl rfl rfl rfl rfl rfl rfl rfl rfl rfl (.inr ⟨rfl, hslope⟩)
  | ascending =>
    simp only [xmlAttributes, hslope]
    exact ofAttributes_of_eq rfl rfl rfl rfl rfl rfl rfl rfl rfl rfl (.inl (by rw [hslope]; rfl))

end Shape

/-! ## The document -/

open Xml (Frame Reader Node)
open Xml.Reader (run)

/-- The element of a shape. -/
def Shape.node (s : Shape Float) : Node :=
  .element "shape" (plainAttributes s.xmlAttributes) []

/-- The white space between two lines. -/
def indent : Node := .text "\n  "

/-- The reader inside the root, at the end of a line. -/
def atLineEnd (f : Frame) : Reader :=
  ⟨.text ⟨['\n'], none, false, 0⟩, ⟨[f], none⟩⟩

/-- A line with a shape puts its element into the root. -/
lemma run_line {s : Shape Float} (h : s.paint.IsAllowed) (f : Frame) (rest : List Char) :
    run (atLineEnd f) (("  " ++ s.xmlText ++ "\n").toList ++ rest) =
      run (atLineEnd { f with children := s.spaced.node :: indent :: f.children }) rest := by
  have htext : ("  " ++ s.xmlText ++ "\n").toList ++ rest = ' ' :: ' ' :: '<' ::
      ("shape".toList ++ (s.xmlAttributes.flatMap attributeText ++
        '/' :: '>' :: '\n' :: rest)) := by
    have hspaces : "  ".toList = [' ', ' '] := rfl
    have hbreak : "\n".toList = ['\n'] := rfl
    simp only [String.toList_append, s.toList_xmlText, hspaces, hbreak, List.append_assoc,
      List.cons_append, List.nil_append]
  have hopen (tail : List Char) : run (atLineEnd f) (' ' :: ' ' :: '<' :: tail) =
      run ⟨.opened, ⟨[{ f with children := indent :: f.children }], none⟩⟩ tail := rfl
  have hne : s.xmlAttributes ≠ [] := by simp [Shape.xmlAttributes]
  rw [htext, hopen, Xml.Reader.run_emptyElement (by decide) (Shape.isWritable_xmlAttributes h) hne,
    s.map_normalizedAttribute_xmlAttributes]
  rfl

/-- The nodes inside the root up to the end of the last line. -/
def lineNodes (shapes : List (Shape Float)) : List Node :=
  shapes.flatMap fun s => [indent, s.node]

lemma run_lines {shapes : List (Shape Float)} (h : ∀ s ∈ shapes, s.paint.IsAllowed) (f : Frame)
    (rest : List Char) :
    run (atLineEnd f)
        ((String.join (shapes.map fun s => "  " ++ s.xmlText ++ "\n")).toList ++ rest) =
      run (atLineEnd { f with
        children := (lineNodes (shapes.map Shape.spaced)).reverse ++ f.children }) rest := by
  -- After each line the reader is at the end of a line again, with two more nodes in the root.
  induction shapes generalizing f with
  | nil => rfl
  | cons s shapes ih =>
    have hnodes : (lineNodes ((s :: shapes).map Shape.spaced)).reverse ++ f.children =
        (lineNodes (shapes.map Shape.spaced)).reverse ++ s.spaced.node :: indent :: f.children := by
      simp [lineNodes]
    rw [List.map_cons, String.join_cons, String.toList_append, List.append_assoc,
      run_line (h s (by simp)), ih fun s' hs' => h s' (by simp [hs']), hnodes]

/-- The root of the document that is written. -/
def Sheet.node (sheet : Sheet Float) : Node :=
  .element "shapes" [⟨none, "version", "1"⟩] (lineNodes sheet.shapes ++ [.text "\n"])

namespace Sheet

variable {sheet : Sheet Float}

lemma toList_xmlText (sheet : Sheet Float) :
    sheet.xmlText.toList = '<' :: ("shapes".toList ++ ([("version", "1")].flatMap attributeText ++
      '>' :: '\n' :: ((String.join (sheet.shapes.map fun s => "  " ++ s.xmlText ++ "\n")).toList ++
        '<' :: '/' :: ("shapes".toList ++ '>' :: ['\n'])))) := by
  have hversion : (xmlAttribute "version" (toString snapshotVersion)).toList =
      attributeText ("version", "1") := rfl
  have hopen : "<shapes".toList = '<' :: "shapes".toList := rfl
  have hbreak : ">\n".toList = ['>', '\n'] := rfl
  have hclose : "</shapes>\n".toList = '<' :: '/' :: ("shapes".toList ++ '>' :: ['\n']) := rfl
  unfold xmlText
  simp only [String.toList_append, hversion, hopen, hbreak, hclose, List.flatMap_cons,
    List.flatMap_nil, List.append_assoc, List.cons_append, List.nil_append]

/-- Neither a mark nor a declaration stands before the root. -/
lemma parse_xmlText_eq (sheet : Sheet Float) :
    Xml.parse sheet.xmlText = (run .start sheet.xmlText.toList).bind Reader.root? := by
  have hmark : Xml.withoutMark sheet.xmlText.toList = sheet.xmlText.toList := by
    rw [toList_xmlText]
    rfl
  have hdeclaration : "<?xml ".toList.isPrefixOf sheet.xmlText.toList = false := by
    rw [toList_xmlText]
    rfl
  simp only [Xml.parse, hmark, hdeclaration, Bool.false_eq_true, if_false, Option.bind_eq_bind,
    Option.bind_some]

/-- The document has an element for each shape inside its root, if it may hold the colors. -/
lemma parse_xmlText_spaced (h : ∀ s ∈ sheet.shapes, s.paint.IsAllowed) :
    Xml.parse sheet.xmlText = some sheet.spaced.node := by
  have hstart (tail : List Char) : run .start ('<' :: tail) = run ⟨.opened, {}⟩ tail := rfl
  have hbreak (f : Frame) (tail : List Char) :
      run (.resume ⟨[f], none⟩) ('\n' :: tail) = run (atLineEnd f) tail := rfl
  have hclose (f : Frame) (tail : List Char) : run (atLineEnd f) ('<' :: tail) =
      run ⟨.opened, ⟨[{ f with children := .text "\n" :: f.children }], none⟩⟩ tail := rfl
  have hend (root : Node) : run (.resume ⟨[], some root⟩) ['\n'] =
      some ⟨.text ⟨['\n'], none, false, 0⟩, ⟨[], some root⟩⟩ := rfl
  have hwritable : IsWritable [("version", "1")] := by
    refine ⟨by decide, by decide, by decide, ?_⟩
    simp only [List.mem_singleton, forall_eq]
    exact List.all_eq_true.1 (by decide)
  have hversion : [("version", "1")].map normalizedAttribute = [("version", "1")] := rfl
  have hrun : run .start sheet.xmlText.toList =
      some ⟨.text ⟨['\n'], none, false, 0⟩, ⟨[], some sheet.spaced.node⟩⟩ := by
    rw [toList_xmlText, hstart,
      Xml.Reader.run_startTag (by decide) hwritable (by simp) fun _ => rfl, hversion, hbreak,
      run_lines h, hclose, Xml.Reader.run_endTag (by decide) rfl, hend]
    simp [node, spaced, plainAttributes]
  rw [parse_xmlText_eq, hrun]
  rfl

/-- The values are those of the shapes if the colors can be shown. -/
lemma parse_xmlText (h : ∀ s ∈ sheet.shapes, s.paint.IsShown) :
    Xml.parse sheet.xmlText = some sheet.node := by
  rw [parse_xmlText_spaced fun s hs => (h s hs).isAllowed, spaced_of_isShown h]

lemma shapesOfNodes_node (s : Shape Float) {nodes : List Node} {shapes : List (Shape Float)}
    (h : shapesOfNodes nodes = .ok shapes) :
    shapesOfNodes (s.node :: nodes) = .ok (s.normalize :: shapes) := by
  rw [Shape.node, shapesOfNodes, s.ofAttributes_xmlAttributes, h]
  rfl

/-- The shapes are read from the nodes inside the root, and normalized. -/
lemma shapesOfNodes_lineNodes (shapes : List (Shape Float)) :
    shapesOfNodes (lineNodes shapes ++ [.text "\n"]) = .ok (shapes.map Shape.normalize) := by
  have hskip (nodes : List Node) : shapesOfNodes (indent :: nodes) = shapesOfNodes nodes := rfl
  induction shapes with
  | nil => rfl
  | cons s shapes ih =>
    have hnodes : lineNodes (s :: shapes) ++ [.text "\n"] =
        indent :: s.node :: (lineNodes shapes ++ [.text "\n"]) := rfl
    rw [hnodes, hskip, shapesOfNodes_node s ih, List.map_cons]

lemma ofXmlText_of_parse {text : String} (h : Xml.parse text = some sheet.node) :
    ofXmlText text = .ok ⟨sheet.shapes.map Shape.normalize⟩ := by
  have hversion : versionOfAttributes [⟨none, "version", "1"⟩] = .ok snapshotVersion := rfl
  rw [ofXmlText, h, node]
  dsimp only
  rw [ofXml, hversion, shapesOfNodes_lineNodes]
  rfl

/-- A drawing is loaded from its XML snapshot if its colors can be shown.  The shapes come back
in their order, each of them normalized and otherwise as it was. -/
theorem ofXmlText_xmlText (h : ∀ s ∈ sheet.shapes, s.paint.IsShown) :
    ofXmlText sheet.xmlText = .ok ⟨sheet.shapes.map Shape.normalize⟩ ∧
      List.Forall₂ Shape.SameLook sheet.shapes (sheet.shapes.map Shape.normalize) :=
  ⟨ofXmlText_of_parse (parse_xmlText h), Shape.forall₂_sameLook_normalize sheet.shapes⟩

/-- Two shapes with one identifier.  Their numbers are NaN, the infinities, negative zero and the
least double among others, and their colors hold what has to be escaped. -/
def smudge : Sheet Float :=
  ⟨[⟨.ofNat (2 ^ 128 - 1), .line, 0 / 0, -0.0, -1e300, 5e-324, 1 / 0, .ascending,
      ⟨"<a href='x'>&amp;", "\"é]]>😀", -(1 / 0)⟩⟩,
    ⟨.ofNat (2 ^ 128 - 1), .ellipse, 1e16, 1e-7, 0.3, -2, 100, .descending, .default⟩]⟩

theorem ofXmlText_xmlText_smudge :
    (∀ s ∈ smudge.shapes, s.paint.IsShown) ∧ smudge.shapes.map Shape.normalize ≠ smudge.shapes ∧
      ofXmlText smudge.xmlText = .ok ⟨smudge.shapes.map Shape.normalize⟩ := by
  have hshown : ∀ s ∈ smudge.shapes, s.paint.IsShown := by
    intro s hs
    simp only [smudge, List.mem_cons, List.not_mem_nil, or_false] at hs
    rcases hs with rfl | rfl
    · decide +kernel
    · decide +kernel
  exact ⟨hshown, by decide +kernel, (ofXmlText_xmlText hshown).1⟩

end Sheet

end Atelier
